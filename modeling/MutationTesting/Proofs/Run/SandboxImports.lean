import MutationTesting.Proofs.Run.ImportRoot
import MutationTesting.Proofs.Run.SandboxIsolation
import MutationTesting.Proofs.Testing.Environment

/-!
# What tests in a sandbox import

The search path of tests in a sandbox begins with the copy of the directory that the module of the
mutated file is imported from.  If that directory lies in the project, the name of the module leads
from its copy to the copy of the file.  A directory above the project has no copy: the search path
then begins with the directory itself, and the name leads to the file of the project.
-/

namespace MutationTesting

namespace Text

theorem headD_pieces_intercalate {separator : Char} {first : String} (rest : List String)
    (hfirst : separator ∉ first.toList) (default : String) :
    (pieces separator (String.intercalate (String.singleton separator) (first :: rest))).headD
      default = first := by
  by_cases hrest : rest = []
  · rw [hrest, String.intercalate_singleton, pieces_of_not_mem hfirst, List.headD_cons]
  · rw [String.intercalate_cons_of_ne_nil hrest, pieces_append, pieces_of_not_mem hfirst,
      List.singleton_append, List.headD_cons]

end Text

namespace Run

open MutationTesting.Files
open MutationTesting.Testing
open MutationTesting.Text (isIdentifier pieces startsWith)
open MutationTesting.Files.FileSystem (pathOf)
open MutationTesting.Files.Path (IsComponent leadingSlashes)

/-- The first directory that tests import modules from. -/
def firstSearched (e : Environment) : Path :=
  (pieces pathSeparator ((e.get? searchPathName).getD "")).headD ""

/-- The file of a module, in a directory that modules are imported from. -/
def moduleFile (directory : Path) (name : String) (isPackage : Bool) : Path :=
  joinAll directory (pieces '.' name) ++
    (if isPackage then "/" ++ packageFileName else sourceExtension)

/-- The name of a module leads from any directory to the file that its parts spell there. -/
theorem moduleFile_eq {base other place : Address} {name : String}
    (hbase : ∀ name ∈ base ++ place, IsComponent name)
    (hother : ∀ name ∈ other ++ place, IsComponent name)
    (hleads : LeadsToModule (pieces '.' name) place)
    (hparts : ∀ part ∈ pieces '.' name, isIdentifier part.toList = true) :
    moduleFile (pathOf base) name
        (decide (Path.baseName (pathOf (other ++ place)) = packageFileName)) =
      pathOf (base ++ place) := by
  have hlast : Path.baseName (pathOf (other ++ place)) = Path.baseName (pathOf (base ++ place)) := by
    obtain ⟨front, last, rfl⟩ : ∃ front last, place = front ++ [last] := by
      generalize pieces '.' name = parts at hleads
      cases hleads with
      | package => exact ⟨_, _, rfl⟩
      | file front stem => exact ⟨front, _, rfl⟩
    rw [← List.append_assoc, Path.isComponent_concat_iff] at hbase hother
    rw [← List.append_assoc, ← List.append_assoc, Path.baseName_pathOf hother.1 hother.2,
      Path.baseName_pathOf hbase.1 hbase.2]
  have hfound := joinAll_of_leadsToModule hbase hleads hparts
    (List.ne_nil_of_length_eq_add_one (Text.length_pieces '.' name))
  rw [moduleFile, hlast]
  simpa only [decide_eq_true_eq] using hfound

section Relocation

variable {b : Sandbox} {root copy base place more : Address} {path : Path}

theorem collapse_append_dot (isRooted : Bool) (done names : List String) :
    Path.collapse isRooted done (names ++ ["."]) = Path.collapse isRooted done names := by
  induction names generalizing done with
  | nil => rw [List.nil_append, Path.collapse_stay (.inr rfl)]
  | cons first rest ih => cases done <;> simp only [List.cons_append, Path.collapse, ih]

theorem endsWith_slash_pathOf (hnonempty : copy ≠ []) (hcopy : ∀ name ∈ copy, IsComponent name) :
    Text.endsWith "/" (pathOf copy) = false := by
  obtain ⟨text, c, htext, hc⟩ := Path.exists_toList_pathOf hnonempty hcopy
  rw [Text.endsWith, htext, List.isSuffixOf, Bool.eq_false_iff]
  simp [List.isPrefixOf, Ne.symm hc]

/-- A directory seen from itself is the directory. -/
theorem normalize_join_dot (hcopy : ∀ name ∈ copy, IsComponent name) :
    Path.normalize (Path.join (pathOf copy) ".") = pathOf copy := by
  have hcollapse : Path.collapse true [] (Path.segments (Path.join (pathOf copy) ".")) = copy := by
    by_cases hempty : copy = []
    · subst hempty
      decide
    · have hdot : Path.segments "." = ["."] := by decide
      rw [Path.segments_join (by simp [pathOf]) (endsWith_slash_pathOf hempty hcopy) (by decide),
        hdot, collapse_append_dot, Path.segments_pathOf hempty hcopy,
        Path.collapse_stay (.inl rfl), Path.collapse_of_isComponent hcopy]
      rfl
  have hdots : leadingSlashes "." ≠ "//" := by decide
  have habsolute := Path.absolute_eq hcopy hdots
  rw [hcollapse] at habsolute
  exact habsolute

theorem dropCommon_above (start more : List String) :
    Path.dropCommon (start ++ more) start = (more, []) := by
  induction start with
  | nil => cases more <;> rfl
  | cons first rest ih => rw [List.cons_append, Path.dropCommon, if_pos rfl, ih]

/-- A directory is seen from one below it by way of two dots. -/
theorem startsWith_dots_relative {above below : Path} (hmore : more ≠ [])
    (hnames : Path.names below = Path.names above ++ more) :
    startsWith ".." (Path.relative above below) = true := by
  obtain ⟨first, rest, rfl⟩ := List.exists_cons_of_ne_nil hmore
  obtain ⟨others, hothers⟩ :=
    Text.exists_intercalate_cons "/" ".." (rest.map fun _ => "..")
  rw [Path.relative, hnames, dropCommon_above, startsWith, List.isPrefixOf_iff_prefix]
  exact ⟨others, by simpa using hothers.symm⟩

theorem relative_self (path : Path) : Path.relative path path = "." := by
  have hcommon := Path.dropCommon_append (Path.names path) []
  rw [List.append_nil] at hcommon
  rw [Path.relative, hcommon]
  rfl

end Relocation

namespace Sandbox

variable {b : Sandbox} {root copy base place more : Address} {path : Path}

section Below

variable (hall : ∀ name ∈ root ++ place, IsComponent name) (hproject : b.project = pathOf root)
variable (hpath : Path.absolute b.directory path = pathOf (root ++ place))
variable (hfirst : startsWith ".." (place.headD "") = false)

include hall hproject hpath

/-- What is in the project is seen from there by the names below it. -/
theorem placeInProject_of_below :
    b.placeInProject path = if place = [] then "." else String.intercalate "/" place := by
  rw [placeInProject, hpath, hproject]
  split
  · next hnone => rw [hnone, List.append_nil, relative_self]
  · next hsome =>
    refine Path.relative_of_names hsome ?_
    rw [Path.names_pathOf hall,
      Path.names_pathOf fun name hname => hall name (List.mem_append_left place hname)]

include hfirst

theorem isInside_of_below : b.isInside path = true := by
  rw [isInside, placeInProject_of_below hall hproject hpath]
  cases place with
  | nil => decide
  | cons first rest =>
      rw [if_neg (List.cons_ne_nil first rest),
        Path.startsWith_dots_intercalate (hall first (by simp))]
      simpa using hfirst

/-- What is in the project is at the same place in the copy. -/
theorem relocate_of_below (hcopy : ∀ name ∈ copy, IsComponent name) (hroot : b.copy = pathOf copy) :
    b.relocate path = pathOf (copy ++ place) := by
  have hplace : ∀ name ∈ place, IsComponent name :=
    fun name hname => hall name (List.mem_append_right root hname)
  rw [relocate, isInside_of_below hall hproject hpath hfirst, if_pos rfl,
    placeInProject_of_below hall hproject hpath, hroot]
  split
  · next hnone => rw [hnone, List.append_nil, normalize_join_dot hcopy]
  · next hsome =>
    rw [Path.join_pathOf hcopy hplace hsome,
      Path.normalize_pathOf (List.forall_mem_append.mpr ⟨hcopy, hplace⟩)]

end Below

/-- What is above the project has no copy. -/
theorem relocate_of_above (hall : ∀ name ∈ base ++ more, IsComponent name) (hmore : more ≠ [])
    (hproject : b.project = pathOf (base ++ more))
    (hpath : Path.absolute b.directory path = pathOf base) : b.relocate path = pathOf base := by
  have hbase : ∀ name ∈ base, IsComponent name :=
    fun name hname => hall name (List.mem_append_left more hname)
  have hdots : startsWith ".." (b.placeInProject path) = true := by
    rw [placeInProject, hpath, hproject]
    refine startsWith_dots_relative hmore ?_
    rw [Path.names_pathOf hall, Path.names_pathOf hbase]
  rw [relocate, isInside, hdots, Bool.not_true, if_neg (by simp), hpath]

theorem firstSearched_environment {parent given : Environment} {source : SourceFile}
    (hplain : pathSeparator ∉ (b.relocate (importRoot b.directory source)).toList) :
    firstSearched (b.environment parent given source) =
      b.relocate (importRoot b.directory source) := by
  rw [firstSearched, environment, Environment.get?_set, Option.getD_some]
  exact Text.headD_pieces_intercalate _ hplain ""

theorem not_mem_pathOf {c : Char} (hc : c ≠ '/') (hplain : ∀ name ∈ root, c ∉ name.toList) :
    c ∉ (pathOf root).toList := by
  intro hmem
  rw [pathOf, String.toList_append, List.mem_append] at hmem
  rcases hmem with hslash | hname
  · exact hc (by simpa using hslash)
  · rcases Text.mem_toList_intercalate hname with hslash | ⟨name, hname, hmem⟩
    · exact hc (by simpa using hslash)
    · exact hplain name hname hmem

section Imports

variable {here : Address} {searchPath : List Path} {modulesFrom : Option Path}
variable {source : SourceFile} {name : String} {parent given : Environment}
variable (hhere : ∀ name ∈ here, IsComponent name) (hdirectory : b.directory = pathOf here)
variable (hpath : leadingSlashes source.path ≠ "//")
variable (hmodules : ∀ path ∈ modulesFrom, leadingSlashes path ≠ "//")
variable (hsearch : ∀ path ∈ searchPath, leadingSlashes path ≠ "//")
variable (hname : moduleName? ⟨pathOf here, searchPath⟩ modulesFrom source.path = some name)
variable (hsource : source.moduleId = some name)
variable (hpackage : Path.baseName (Path.absolute (pathOf here) source.path) = packageFileName →
  Path.baseName source.path = packageFileName)
variable (hproject : b.project = pathOf root) (hcopy : b.copy = pathOf copy)
variable (hbelow : Path.absolute (pathOf here) source.path = pathOf (root ++ place))
variable (hall : ∀ name ∈ root ++ place, IsComponent name ∧ pathSeparator ∉ name.toList)
variable (hcopyNames : ∀ name ∈ copy, IsComponent name ∧ pathSeparator ∉ name.toList)
variable (hfirst : startsWith ".." (place.headD "") = false)

include hhere hdirectory hpath hmodules hsearch hname hsource hpackage hproject hcopy hbelow hall
  hcopyNames hfirst

omit hproject hcopy hcopyNames hfirst in
/-- The name leads from the directory that the module is imported from to its file. -/
theorem exists_base : ∃ base rest, base ++ rest = root ++ place ∧
    moduleBase ⟨pathOf here, searchPath⟩ modulesFrom source.path = pathOf base ∧
      importRoot b.directory source = pathOf base ∧ LeadsToModule (pieces '.' name) rest ∧
        ∀ part ∈ pieces '.' name, isIdentifier part.toList = true := by
  obtain ⟨base, rest, hnames, hbase, hfile, hleads, hparts⟩ :=
    exists_place_of_moduleName? hhere hpath hmodules hsearch hname
  have himport := (importRoot_eq_moduleBase_iff hhere hpath hmodules hsearch hname rfl
    hsource).mpr hpackage
  refine ⟨base, rest, ?_, hbase, ?_, hleads, hparts⟩
  · rw [hbelow] at hfile
    rw [← Path.names_pathOf hnames, ← hfile, Path.names_pathOf fun name hname => (hall name hname).1]
  · rw [hdirectory, himport, hbase]

/-- If the base of its name is in the project, a module is found in the copy, at the place of its
file. -/
theorem moduleFile_of_base_below
    (hbase : root <+: Path.names (moduleBase ⟨pathOf here, searchPath⟩ modulesFrom source.path)) :
    moduleFile (firstSearched (b.environment parent given source)) name
        (decide (Path.baseName (pathOf (root ++ place)) = packageFileName)) =
      pathOf (copy ++ place) := by
  obtain ⟨base, rest, hsplit, hmoduleBase, himport, hleads, hparts⟩ := exists_base hhere hdirectory
    hpath hmodules hsearch hname hsource hpackage hbelow hall
  have hbaseNames : ∀ name ∈ base, IsComponent name := fun name hname =>
    (hall name (hsplit ▸ List.mem_append_left rest hname)).1
  rw [hmoduleBase, Path.names_pathOf hbaseNames] at hbase
  obtain ⟨more, rfl⟩ := hbase
  rw [List.append_assoc] at hsplit
  obtain rfl := List.append_cancel_left hsplit
  have hmore : ∀ name ∈ copy ++ more, IsComponent name ∧ pathSeparator ∉ name.toList := by
    intro name hname
    rcases List.mem_append.mp hname with hcopyName | hmoreName
    · exact hcopyNames name hcopyName
    · exact hall name (by simp [hmoreName])
  have hrelocate : b.relocate (importRoot b.directory source) = pathOf (copy ++ more) := by
    rw [himport]
    refine relocate_of_below hbaseNames hproject (Path.absolute_pathOf b.directory hbaseNames) ?_
      (fun name hname => (hcopyNames name hname).1) hcopy
    cases more with
    | nil => decide
    | cons first others => simpa using hfirst
  rw [firstSearched_environment, hrelocate, ← List.append_assoc root, ← List.append_assoc copy]
  · refine moduleFile_eq (fun name hname => ?_) (fun name hname => ?_) hleads hparts
    · rcases List.mem_append.mp hname with hmoreName | hrestName
      · exact (hmore name hmoreName).1
      · exact (hall name (by simp [hrestName])).1
    · exact (hall name (by simpa using hname)).1
  · rw [hrelocate]
    exact not_mem_pathOf (by decide) fun name hname => (hmore name hname).2

omit hcopy hcopyNames hfirst in
/-- If it is above the project, the module is found in the file itself. -/
theorem moduleFile_of_base_above
    (hbase : ¬ root <+: Path.names (moduleBase ⟨pathOf here, searchPath⟩ modulesFrom source.path)) :
    moduleFile (firstSearched (b.environment parent given source)) name
        (decide (Path.baseName (pathOf (root ++ place)) = packageFileName)) =
      pathOf (root ++ place) := by
  obtain ⟨base, rest, hsplit, hmoduleBase, himport, hleads, hparts⟩ := exists_base hhere hdirectory
    hpath hmodules hsearch hname hsource hpackage hbelow hall
  have hbaseNames : ∀ name ∈ base, IsComponent name ∧ pathSeparator ∉ name.toList :=
    fun name hname => hall name (hsplit ▸ List.mem_append_left rest hname)
  rw [hmoduleBase, Path.names_pathOf fun name hname => (hbaseNames name hname).1] at hbase
  obtain ⟨more, rfl⟩ : base <+: root :=
    (List.prefix_or_prefix_of_prefix (hsplit ▸ List.prefix_append base rest)
      (List.prefix_append root place)).resolve_right hbase
  have hmore : more ≠ [] := by
    rintro rfl
    exact hbase (by simp)
  have hrelocate : b.relocate (importRoot b.directory source) = pathOf base := by
    rw [himport]
    exact relocate_of_above (fun name hname => (hall name (List.mem_append_left place hname)).1)
      hmore hproject
      (Path.absolute_pathOf b.directory fun name hname => (hbaseNames name hname).1)
  rw [firstSearched_environment, hrelocate, ← hsplit]
  · have hnames : ∀ name ∈ base ++ rest, IsComponent name :=
      fun name hname => (hall name (hsplit ▸ hname)).1
    exact moduleFile_eq hnames hnames hleads hparts
  · rw [hrelocate]
    exact not_mem_pathOf (by decide) fun name hname => (hbaseNames name hname).2

end Imports

end Sandbox

/-- The sandbox of a slot. -/
def Assignment.sandboxAt (a : Assignment) (start : FileSystem) (slot : Nat) : Sandbox :=
  ⟨start.directory, a.project start, pathOf (copyRoot (a.project start) slot)⟩

/-- A placement is that of a sandbox. -/
structure Placement.IsIn (p : Placement) (a : Assignment) (b : Sandbox) : Prop where
  target : p.target = if b.isInside a.source.path then b.relocate a.source.path else a.source.path
  environment : p.request.options.environment =
    b.environment a.environment a.options.invocation.environment a.source

namespace Yard

/-- Every worker is placed in the sandbox of its slot. -/
structure Assigned (a : Assignment) (start : FileSystem) (y : Yard) : Prop where
  directory : y.files.directory = start.directory
  copies : ∀ slot copy, y.sandboxes.lookup slot = some copy →
    copy = pathOf (copyRoot (a.project start) slot)
  placed : ∀ slot o, y.occupant slot = some o → o.placement.IsIn a (a.sandboxAt start slot)

variable {a : Assignment} {start : FileSystem} {y next : Yard} {slot : Nat} {m : Mutation}
variable {p : Placement}

theorem assigned_initial : Assigned a start (initial start) where
  directory := rfl
  copies := by simp [initial]
  placed := by simp [initial]

theorem Assigned.copies_of_sandboxOf (hassigned : Assigned a start y)
    {observations : List Observation} {w : Workshop} {copy : Path}
    (hsandbox : sandboxOf ⟨y.files, y.sandboxes, observations⟩ (a.project start) slot =
      .ok (w, copy)) :
    copy = pathOf (copyRoot (a.project start) slot) ∧
      ∀ other known, w.sandboxes.lookup other = some known →
        known = pathOf (copyRoot (a.project start) other) := by
  rcases sandboxOf_eq_ok hsandbox with ⟨rfl, hknown⟩ | ⟨-, rfl, source, -, rfl⟩
  · exact ⟨hassigned.copies slot copy hknown, hassigned.copies⟩
  · refine ⟨rfl, fun other known hlookup => ?_⟩
    by_cases hother : other = slot
    · subst hother
      dsimp only at hlookup
      rw [List.lookup_append] at hlookup
      cases hbefore : y.sandboxes.lookup other with
      | some before =>
          rw [hbefore, Option.some_or, Option.some.injEq] at hlookup
          rw [← hlookup]
          exact hassigned.copies other before hbefore
      | none =>
          rw [hbefore, Option.none_or, List.lookup_cons_self, Option.some.injEq] at hlookup
          exact hlookup.symm
    · exact hassigned.copies other known (by rwa [lookup_concat_of_ne hother] at hlookup)

theorem Assigned.update (hassigned : Assigned a start y) {fs : FileSystem}
    (hdirectory : fs.directory = start.directory) {phase : Phase}
    (hplacement : p.IsIn a (a.sandboxAt start slot)) {sandboxes : List (Nat × Path)}
    (hcopies : ∀ slot copy, sandboxes.lookup slot = some copy →
      copy = pathOf (copyRoot (a.project start) slot)) :
    Assigned a start ⟨fs, sandboxes, Function.update y.occupant slot (some ⟨m, p, phase⟩)⟩ where
  directory := hdirectory
  copies := hcopies
  placed := by
    intro other o hoccupied
    by_cases hother : other = slot
    · subst hother
      dsimp only at hoccupied
      rw [Function.update_self, Option.some.injEq] at hoccupied
      subst hoccupied
      exact hplacement
    · dsimp only at hoccupied
      rw [Function.update_of_ne hother] at hoccupied
      exact hassigned.placed other o hoccupied

theorem Assigned.place (hisolation : a.options.isolation = .sandbox)
    (hassigned : Assigned a start y) {observations : List Observation} {w : Workshop}
    (hplaced : placementOf a ⟨y.files, y.sandboxes, observations⟩ slot (a.testsFor m) =
      .ok (w, p)) :
    Assigned a start
      ⟨w.files, w.sandboxes, Function.update y.occupant slot (some ⟨m, p, .entered⟩)⟩ := by
  simp only [placementOf, hisolation, project_congr a hassigned.directory] at hplaced
  obtain ⟨⟨made, copy⟩, hsandbox, hrest⟩ := bind_eq_ok_iff.mp hplaced
  simp only [pure, Except.pure, Except.ok.injEq, Prod.mk.injEq] at hrest
  obtain ⟨rfl, rfl⟩ := hrest
  have hdirectory : made.files.directory = start.directory :=
    (directory_of_sandboxOf hsandbox).trans hassigned.directory
  obtain ⟨rfl, hcopies⟩ := hassigned.copies_of_sandboxOf hsandbox
  refine hassigned.update hdirectory ⟨?_, ?_⟩ hcopies
  · rw [Assignment.sandboxAt, ← hdirectory]
  · rw [Assignment.sandboxAt, ← hdirectory]

theorem Step.assigned (hisolation : a.options.isolation = .sandbox) (hstep : Step a y next)
    (hassigned : Assigned a start y) : Assigned a start next := by
  cases hstep with
  | place _ hplaced => exact hassigned.place hisolation hplaced
  | advance outcome hoccupied =>
      refine hassigned.update ?_ (hassigned.placed _ _ hoccupied) hassigned.copies
      refine (a.worker _ _).advance_induction (·.directory = start.directory) ?_ ?_ outcome _
        hassigned.directory
      · intro fs path content next hfs hwrite
        obtain ⟨-, -, -, -, rfl⟩ := FileSystem.exists_locate_of_write hwrite
        exact hfs
      · intro fs path next hfs hremove
        obtain ⟨-, -, -, -, rfl⟩ := FileSystem.exists_locate_of_remove hremove
        exact hfs
  | finish _ =>
      refine ⟨hassigned.directory, hassigned.copies, fun other o hoccupied => ?_⟩
      dsimp only at hoccupied
      rw [Function.update_apply] at hoccupied
      split at hoccupied
      · cases hoccupied
      · exact hassigned.placed other o hoccupied

theorem Reachable.assigned (hisolation : a.options.isolation = .sandbox)
    (hreachable : Reachable a start y) : Assigned a start y := by
  induction hreachable with
  | refl => exact assigned_initial
  | tail _ hstep ih => exact hstep.assigned hisolation ih

end Yard

theorem plain_of_mem_copyRoot {root : Address} {slot : Nat}
    (hroot : ∀ name ∈ root, IsComponent name ∧ pathSeparator ∉ name.toList) :
    ∀ name ∈ copyRoot (pathOf root) slot, IsComponent name ∧ pathSeparator ∉ name.toList := by
  have hcomponents : ∀ name ∈ copyRoot (pathOf root) slot, IsComponent name := by
    refine isComponent_of_mem_copyRoot ?_
    rw [Path.names_pathOf fun name hname => (hroot name hname).1]
    exact fun name hname => (hroot name hname).1
  have hnumber : pathSeparator ∉ (Decimal.ofNat slot).toList := by
    intro hmem
    obtain ⟨d, hd, hsame⟩ := Decimal.exists_digit_of_mem_ofNat hmem
    revert hsame
    revert d
    decide
  have hname : pathSeparator ∉ (copyName (pathOf root)).toList := by
    obtain rfl | ⟨dirs, last, rfl⟩ := List.eq_nil_or_concat root
    · decide
    · rw [List.concat_eq_append] at hroot ⊢
      have hparts := Path.isComponent_concat_iff.mp fun name hname => (hroot name hname).1
      rw [copyName, Path.baseName_pathOf hparts.1 hparts.2]
      split
      · decide
      · exact (hroot last (by simp)).2
  intro name hmem
  refine ⟨hcomponents name hmem, ?_⟩
  rcases List.mem_append.mp hmem with hparent | hlast
  · rcases List.mem_pair.mp hparent with rfl | rfl
    · decide
    · simp only [String.toList_append, List.mem_append, not_or]
      exact ⟨⟨by decide, hnumber⟩, by decide⟩
  · rw [List.mem_singleton.mp hlast]
    exact hname

/-- A file of the project that is to be mutated in sandboxes, and its name as a module.  The name is
counted from the project, or from the search path and the current directory. -/
structure NamedModule (a : Assignment) (start : FileSystem) (here : Address)
    (searchPath : List Path) (modulesFrom : Option Path) (place : Address) (name : String) :
    Prop where
  isolation : a.options.isolation = .sandbox
  directory : start.directory = pathOf here
  isComponent : ∀ name ∈ here, IsComponent name
  path_slashes : leadingSlashes a.source.path ≠ "//"
  project_slashes : ∀ path ∈ a.options.invocation.directory, leadingSlashes path ≠ "//"
  search_slashes : ∀ path ∈ searchPath, leadingSlashes path ≠ "//"
  modules_slashes : ∀ path ∈ modulesFrom, leadingSlashes path ≠ "//"
  modules_from : ∀ path ∈ modulesFrom, start.absolute path = a.project start
  below : Path.names (start.absolute a.source.path) = Path.names (a.project start) ++ place
  inside : startsWith ".." (place.headD "") = false
  /-- No name would be split on the search path. -/
  plain : ∀ name ∈ Path.names (start.absolute a.source.path), pathSeparator ∉ name.toList
  /-- The path of a package file ends with its name. -/
  package : Path.baseName (start.absolute a.source.path) = packageFileName →
    Path.baseName a.source.path = packageFileName
  named : moduleName? ⟨start.directory, searchPath⟩ modulesFrom a.source.path = some name
  moduleId : a.source.moduleId = some name

namespace NamedModule

variable {a : Assignment} {start : FileSystem} {here : Address} {searchPath : List Path}
variable {modulesFrom : Option Path} {place : Address} {name : String}

theorem exists_root (hmodule : NamedModule a start here searchPath modulesFrom place name) :
    ∃ root, a.project start = pathOf root ∧
      Path.absolute (pathOf here) a.source.path = pathOf (root ++ place) ∧
        ∀ name ∈ root ++ place, IsComponent name ∧ pathSeparator ∉ name.toList := by
  obtain ⟨root, hroot, hproject⟩ :
      ∃ root, (∀ name ∈ root, IsComponent name) ∧ a.project start = pathOf root := by
    have hdirectory : leadingSlashes (pathOf here) ≠ "//" := by
      rw [Path.leadingSlashes_pathOf hmodule.isComponent]
      decide
    rw [Assignment.project]
    split <;> rw [FileSystem.absolute, hmodule.directory]
    · exact Path.exists_absolute_eq_pathOf hmodule.isComponent hdirectory
    · exact Path.exists_absolute_eq_pathOf hmodule.isComponent hdirectory
    · next hsome =>
      exact Path.exists_absolute_eq_pathOf hmodule.isComponent (hmodule.project_slashes _ hsome)
  obtain ⟨file, hfile, hpath⟩ :=
    Path.exists_absolute_eq_pathOf hmodule.isComponent hmodule.path_slashes
  have hbelow := hmodule.below
  have hplain := hmodule.plain
  rw [FileSystem.absolute, hmodule.directory, hpath, Path.names_pathOf hfile] at hbelow hplain
  rw [hproject, Path.names_pathOf hroot] at hbelow
  subst hbelow
  exact ⟨root, hproject, hpath, fun name hname => ⟨hfile name hname, hplain name hname⟩⟩

/-- Names that are counted from the project have their base in it. -/
theorem base_below (hmodule : NamedModule a start here searchPath modulesFrom place name)
    (hsome : modulesFrom.isSome = true) :
    Path.names (a.project start) <+:
      Path.names (moduleBase ⟨start.directory, searchPath⟩ modulesFrom a.source.path) := by
  obtain ⟨root, hproject, -, hall⟩ := hmodule.exists_root
  obtain ⟨path, rfl⟩ := Option.isSome_iff_exists.mp hsome
  have hbase : Path.absolute start.directory path = pathOf root :=
    (hmodule.modules_from path rfl).trans hproject
  have hroot : ∀ name ∈ root, IsComponent name :=
    fun name hname => (hall name (List.mem_append_left place hname)).1
  have hsources : IsComponent "src" := by decide
  simp only [moduleBase, projectBase, hbase, hproject, Path.names_pathOf hroot]
  split
  · rw [Path.join_pathOf_name hroot hsources,
      Path.names_pathOf (Path.isComponent_concat_iff.mpr ⟨hroot, hsources⟩)]
    exact List.prefix_append root ["src"]
  · rw [Path.names_pathOf hroot]

end NamedModule

/-- Tests in a sandbox import the copy that holds the mutant, if the name of the module is counted
from a directory in the project.  That is so whenever it is counted from the project itself.  If it
is counted from a directory above the project, they import the file of the project. -/
theorem sandbox_imports_mutant (a : Assignment) (start : FileSystem) (here : Address)
    (searchPath : List Path) (modulesFrom : Option Path) (place : Address) (name : String)
    (hmodule : NamedModule a start here searchPath modulesFrom place name) :
    let file := start.absolute a.source.path
    let base := moduleBase ⟨start.directory, searchPath⟩ modulesFrom a.source.path
    (modulesFrom.isSome = true → Path.names (a.project start) <+: Path.names base) ∧
      ∀ y, Yard.Reachable a start y → ∀ slot o, y.occupant slot = some o →
        let found := moduleFile (firstSearched o.placement.request.options.environment) name
          (decide (Path.baseName file = packageFileName))
        o.placement.target = pathOf (copyRoot (a.project start) slot ++ place) ∧
          (Path.names (a.project start) <+: Path.names base → found = o.placement.target) ∧
          (¬ Path.names (a.project start) <+: Path.names base → found = file) := by
  intro file base
  refine ⟨hmodule.base_below, fun y hreachable slot o hoccupied => ?_⟩
  obtain ⟨root, hproject, hbelow, hall⟩ := hmodule.exists_root
  have hplaced := (hreachable.assigned hmodule.isolation).placed slot o hoccupied
  have hroot : ∀ name ∈ root, IsComponent name ∧ pathSeparator ∉ name.toList :=
    fun name hname => hall name (List.mem_append_left place hname)
  have hcopy : ∀ name ∈ copyRoot (a.project start) slot,
      IsComponent name ∧ pathSeparator ∉ name.toList := by
    rw [hproject]
    exact plain_of_mem_copyRoot hroot
  have hcomponents : ∀ name ∈ root ++ place, IsComponent name := fun name hname => (hall name hname).1
  have hpath : Path.absolute (a.sandboxAt start slot).directory a.source.path =
      pathOf (root ++ place) := by
    rw [Assignment.sandboxAt, hmodule.directory, hbelow]
  have hinside := Sandbox.isInside_of_below hcomponents hproject hpath hmodule.inside
  have htarget : o.placement.target = pathOf (copyRoot (a.project start) slot ++ place) := by
    rw [hplaced.target, if_pos hinside]
    exact Sandbox.relocate_of_below hcomponents hproject hpath hmodule.inside
      (fun name hname => (hcopy name hname).1) rfl
  have hfile : file = pathOf (root ++ place) := by rw [← hbelow, ← hmodule.directory]; rfl
  have hnames : Path.names (a.project start) = root := by
    rw [hproject, Path.names_pathOf fun name hname => (hroot name hname).1]
  have hnamed := hmodule.named
  have hpackage := hmodule.package
  rw [FileSystem.absolute, hmodule.directory] at hpackage
  rw [hmodule.directory] at hnamed
  refine ⟨htarget, fun hbase => ?_, fun hbase => ?_⟩
  · rw [htarget, hplaced.environment, hfile]
    rw [hnames] at hbase
    simp only [base, hmodule.directory] at hbase
    exact Sandbox.moduleFile_of_base_below hmodule.isComponent hmodule.directory hmodule.path_slashes
      hmodule.modules_slashes hmodule.search_slashes hnamed hmodule.moduleId hpackage hproject rfl
      hbelow hall hcopy hmodule.inside hbase
  · rw [hplaced.environment, hfile]
    rw [hnames] at hbase
    simp only [base, hmodule.directory] at hbase
    exact Sandbox.moduleFile_of_base_above hmodule.isComponent hmodule.directory hmodule.path_slashes
      hmodule.modules_slashes hmodule.search_slashes hnamed hmodule.moduleId hpackage hproject
      hbelow hall hbase

/-- The mutant `a - b` of a module, in a sandbox. -/
def moduleDifference (path : Path) (directory : Option Path) (name : String) : Assignment :=
  let a := sandboxedDifference path
  { a with
    options := { a.options with invocation := { directory } }
    source := { a.source with moduleId := some name } }

/-- The first worker takes its place. -/
theorem Yard.exists_placed {a : Assignment} {start : FileSystem} {m : Mutation}
    (hplaced : (placementOf a ⟨start, [], []⟩ 0 (a.testsFor m)).isOk = true) :
    ∃ y p, Yard.Reachable a start y ∧ y.occupant 0 = some ⟨m, p, .entered⟩ ∧
      (placementOf a ⟨start, [], []⟩ 0 (a.testsFor m)).toOption.map Prod.snd = some p := by
  cases hresult : placementOf a ⟨start, [], []⟩ 0 (a.testsFor m) with
  | error e =>
      rw [hresult] at hplaced
      cases hplaced
  | ok placed =>
      exact ⟨_, placed.2, .single (.place (y := initial start) rfl hresult),
        Function.update_self 0 _ (initial start).occupant, rfl⟩

/-- A project with its sources in a directory of their own. -/
def separateSources : FileSystem :=
  projectOf [(["p", "src"], .directory), (["p", "src", "pkg"], .directory),
    (["p", "src", "pkg", "a.py"], .file (encoded "a + b"))]

/-- A module of a project with separate sources, named from the project. -/
def separateModule : Assignment := moduleDifference "src/pkg/a.py" none "pkg.a"

theorem namedModule_separateModule :
    NamedModule separateModule separateSources ["p"] [] (some "/p") ["src", "pkg", "a.py"]
      "pkg.a" where
  isolation := rfl
  directory := by decide
  isComponent := by decide
  path_slashes := by decide
  project_slashes := by rintro path ⟨⟩
  search_slashes := by simp
  modules_slashes := by rintro path ⟨⟩; decide
  modules_from := by rintro path ⟨⟩; decide +kernel
  below := by decide +kernel
  inside := by decide +kernel
  plain := by decide +kernel
  package := by decide +kernel
  named := by decide +kernel
  moduleId := rfl

/-- The tests of a mutant import it from the copy of the sources. -/
theorem mutant_imported_from_sources :
    NamedModule separateModule separateSources ["p"] [] (some "/p") ["src", "pkg", "a.py"]
        "pkg.a" ∧
      ∃ y o, Yard.Reachable separateModule separateSources y ∧ y.occupant 0 = some o ∧
        o.placement.target = "/tmp/mutascope-0-copy/p/src/pkg/a.py" ∧
        moduleFile (firstSearched o.placement.request.options.environment) "pkg.a" false =
          o.placement.target := by
  obtain ⟨y, p, hreachable, hoccupied, -⟩ :=
    @Yard.exists_placed separateModule separateSources (differenceJob "src/pkg/a.py").mutation
      (by decide +kernel)
  obtain ⟨hbase, hyards⟩ :=
    sandbox_imports_mutant _ _ _ _ _ _ _ namedModule_separateModule
  obtain ⟨htarget, hfound, -⟩ := hyards y hreachable 0 _ hoccupied
  have hplain : decide (Path.baseName (separateSources.absolute separateModule.source.path) =
      packageFileName) = false := by decide +kernel
  rw [hplain] at hfound
  exact ⟨namedModule_separateModule, y, _, hreachable, hoccupied,
    htarget.trans (by decide +kernel), hfound (hbase rfl)⟩

/-- A project below the current directory, with a package. -/
def projectBelow : FileSystem :=
  ⟨⟨[(["tmp"], .directory), (["work"], .directory), (["work", "proj"], .directory),
    (["work", "proj", "pkg"], .directory),
    (["work", "proj", "pkg", "a.py"], .file (encoded "a + b"))]⟩, "/work"⟩

/-- A module of a project below the current directory, named from there. -/
def moduleBelow : Assignment := moduleDifference "proj/pkg/a.py" (some "/work/proj") "proj.pkg.a"

theorem namedModule_moduleBelow :
    NamedModule moduleBelow projectBelow ["work"] [] none ["pkg", "a.py"] "proj.pkg.a" where
  isolation := rfl
  directory := by decide
  isComponent := by decide
  path_slashes := by decide
  project_slashes := by rintro path ⟨⟩; decide
  search_slashes := by simp
  modules_slashes := by rintro path ⟨⟩
  modules_from := by rintro path ⟨⟩
  below := by decide +kernel
  inside := by decide +kernel
  plain := by decide +kernel
  package := by decide +kernel
  named := by decide +kernel
  moduleId := rfl

/-- Tests import the file of the project, and not the mutant, if the name of the module is counted
from a directory above the project. -/
theorem module_imported_from_project :
    ¬ ∀ (a : Assignment) (start : FileSystem) (here : Address) (searchPath : List Path)
      (modulesFrom : Option Path) (place : Address) (name : String),
      NamedModule a start here searchPath modulesFrom place name →
        ∀ y, Yard.Reachable a start y → ∀ slot o, y.occupant slot = some o →
          moduleFile (firstSearched o.placement.request.options.environment) name
            (decide (Path.baseName (start.absolute a.source.path) = packageFileName)) =
              o.placement.target := by
  intro hevery
  obtain ⟨y, p, hreachable, hoccupied, hplaced⟩ :=
    @Yard.exists_placed moduleBelow projectBelow (differenceJob "proj/pkg/a.py").mutation
      (by decide +kernel)
  have hsame := hevery _ _ _ _ _ _ _ namedModule_moduleBelow y hreachable 0 _ hoccupied
  have hplain : decide (Path.baseName (projectBelow.absolute moduleBelow.source.path) =
      packageFileName) = false := by decide +kernel
  rw [hplain] at hsame
  have hother : ((placementOf moduleBelow ⟨projectBelow, [], []⟩ 0
      (moduleBelow.testsFor (differenceJob "proj/pkg/a.py").mutation)).toOption.map Prod.snd).map
        (fun p => (moduleFile (firstSearched p.request.options.environment) "proj.pkg.a" false,
          p.target)) =
      some ("/work/proj/pkg/a.py", "/tmp/mutascope-0-copy/proj/pkg/a.py") := by decide +kernel
  rw [hplaced, Option.map_some, Option.some.injEq, Prod.mk.injEq] at hother
  rw [hother.1, hother.2] at hsame
  revert hsame
  decide

end Run

end MutationTesting
