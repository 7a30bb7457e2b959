import MutationTesting.Proofs.Run.Floor
import MutationTesting.Proofs.Run.SourceInProject

/-!
# A project in which one file is patched

Workers that patch a file where it is leave the rest of the project alone, except that they remove
compiled files.  What was in their way at the start stays in their way, and nothing else gets there.
-/

namespace MutationTesting.Run

open MutationTesting.Files
open MutationTesting.Files.FileSystem (pathOf)
open MutationTesting.Files.Path (IsComponent)
open MutationTesting.Testing

/-- Removing files one by one stops just if one of them cannot be removed whatever happens. -/
theorem removeAll_of_stuck {now : FileSystem} {removed : List Path} (property : FileSystem → Prop)
    (stuck : Path → Prop) (hnow : property now)
    (hstuck : ∀ path ∈ removed, stuck path → ∀ fs, property fs →
      fs.remove path = .error .isDirectory)
    (hloose : ∀ path ∈ removed, ¬ stuck path → ∀ fs, property fs →
      fs.remove path = .error .notFound ∨ ∃ next, fs.remove path = .ok next ∧ property next) :
    property (removeAll now removed).files ∧
      ((∃ path ∈ removed, stuck path) → (removeAll now removed).failure = some .isDirectory) ∧
      ((∀ path ∈ removed, ¬ stuck path) → (removeAll now removed).failure = none) := by
  induction removed generalizing now with
  | nil => exact ⟨hnow, by simp, fun _ => rfl⟩
  | cons path rest ih =>
      have hrest := fun {fs : FileSystem} (hfs : property fs) => ih hfs
        (fun other hother => hstuck other (List.mem_cons_of_mem path hother))
        (fun other hother => hloose other (List.mem_cons_of_mem path hother))
      by_cases hpath : stuck path
      · rw [removeAll, hstuck path List.mem_cons_self hpath now hnow]
        exact ⟨hnow, fun _ => rfl, fun hnone => absurd hpath (hnone path List.mem_cons_self)⟩
      · simp only [List.mem_cons, exists_eq_or_imp, forall_eq_or_imp, hpath, false_or,
          not_false_eq_true, true_and]
        rcases hloose path List.mem_cons_self hpath now hnow with hgone | ⟨next, hremove, hnext⟩
        · rw [removeAll, hgone]
          exact hrest hnow
        · rw [removeAll, hremove]
          exact hrest hnext

/-- The project is as it was at the start, up to the content of a file, its backup and what was
removed.  With sandboxes there may be copies outside of it. -/
structure Steady (a : Assignment) (start : FileSystem) (root : Address) (dirs : List String)
    (last : String) (fs : FileSystem) (content : Bytes) : Prop where
  directory : fs.directory = start.directory
  elsewhere : ∀ address, ¬ root <+: address →
    (a.options.isolation = .sandbox → ∀ slot, ¬ copyParent slot <+: address) →
      fs.store.get? address = start.store.get? address
  directories : ∀ place, fs.store.inside root place = some .directory ↔
    start.store.inside root place = some .directory
  added : ∀ place entry, fs.store.inside root place = some entry →
    start.store.inside root place = some entry ∨
      (place = dirs ++ [last] ∨ place = backupIn dirs last) ∧ ∃ written, entry = .file written
  holds : fs.store.inside root (dirs ++ [last]) = some (.file content)

section States

variable {a : Assignment} {start fs : FileSystem} {root : Address} {dirs : List String}
variable {last : String} {original content : Bytes} {place : Address}

namespace Steady

theorem refl (hstored : start.store.inside root (dirs ++ [last]) = some (.file original)) :
    Steady a start root dirs last start original where
  directory := rfl
  elsewhere := fun _ _ _ => rfl
  directories := fun _ => Iff.rfl
  added := fun _ _ => Or.inl
  holds := hstored

variable (hsteady : Steady a start root dirs last fs content)

include hsteady

/-- What is put at a place, or taken away from it, is not seen elsewhere. -/
theorem moved {store : Store} {now : Option Entry} {written : Bytes}
    (hstore : ∀ address, store.get? address =
      if address = root ++ place then now else fs.store.get? address)
    (hdirectory : fs.store.inside root place ≠ some .directory)
    (hnow : now = none ∨ (place = dirs ++ [last] ∨ place = backupIn dirs last) ∧
      ∃ written, now = some (.file written))
    (hholds : store.inside root (dirs ++ [last]) = some (.file written)) :
    Steady a start root dirs last { fs with store := store } written where
  directory := hsteady.directory
  elsewhere := by
    intro address hunder hcopies
    rw [hstore, if_neg]
    · exact hsteady.elsewhere address hunder hcopies
    · rintro rfl
      exact hunder (List.prefix_append root place)
  directories := by
    intro other
    rw [← hsteady.directories, Store.inside, Store.inside, hstore]
    split
    · next hsame =>
        rw [hsame]
        rcases hnow with rfl | ⟨-, written, rfl⟩ <;> exact iff_of_false (by simp) hdirectory
    · exact Iff.rfl
  added := by
    intro other entry hentry
    rw [Store.inside, hstore] at hentry
    split at hentry
    · next hsame =>
        obtain rfl := List.append_cancel_left hsame
        rcases hnow with rfl | ⟨hplace, written, rfl⟩
        · cases hentry
        · cases hentry
          exact Or.inr ⟨hplace, written, rfl⟩
    · exact hsteady.added other entry hentry
  holds := hholds

theorem put_file (written : Bytes) : Steady a start root dirs last
    { fs with store := fs.store.put (root ++ (dirs ++ [last])) (.file written) } written := by
  have hdirectory : fs.store.inside root (dirs ++ [last]) ≠ some .directory := by
    simp [hsteady.holds]
  have hput := Store.get?_put (s := fs.store) (Store.ne_nil_of_get?_ne hdirectory) (.file written)
  refine hsteady.moved hput hdirectory (Or.inr ⟨Or.inl rfl, written, rfl⟩) ?_
  rw [Store.inside, hput, if_pos rfl]

theorem put_backup (hdirectory : fs.store.inside root (backupIn dirs last) ≠ some .directory)
    (saved : Bytes) : Steady a start root dirs last
      { fs with store := fs.store.put (root ++ backupIn dirs last) (.file saved) } content := by
  have hput := Store.get?_put (s := fs.store) (Store.ne_nil_of_get?_ne hdirectory) (.file saved)
  refine hsteady.moved hput hdirectory (Or.inr ⟨Or.inr rfl, saved, rfl⟩) ?_
  rw [Store.inside, hput, if_neg]
  · exact hsteady.holds
  · exact fun hsame => backupIn_ne dirs last (List.append_cancel_left hsame).symm

theorem erase (hdirectory : fs.store.inside root place ≠ some .directory)
    (hne : place ≠ dirs ++ [last]) : Steady a start root dirs last
      { fs with store := fs.store.erase (root ++ place) } content := by
  have herase := Store.get?_erase (s := fs.store) (Store.ne_nil_of_get?_ne hdirectory)
  refine hsteady.moved herase hdirectory (Or.inl rfl) ?_
  rw [Store.inside, herase, if_neg]
  · exact hsteady.holds
  · exact fun hsame => hne (List.append_cancel_left hsame).symm

/-- What is found and is no directory can be taken away, unless it is gone already. -/
theorem remove_cases {path : Path} (hlocate : fs.store.locate false fs.directory path =
      .ok (root ++ place, fs.store.inside root place))
    (hdirectory : fs.store.inside root place ≠ some .directory) (hne : place ≠ dirs ++ [last]) :
    fs.remove path = .error .notFound ∨
      ∃ next, fs.remove path = .ok next ∧ Steady a start root dirs last next content := by
  cases hfound : fs.store.inside root place with
  | none =>
      left
      rw [FileSystem.remove, hlocate, hfound]
      rfl
  | some entry =>
      rw [hfound] at hlocate
      have hentry : entry ≠ .directory := by
        rintro rfl
        exact hdirectory hfound
      exact Or.inr ⟨_, FileSystem.remove_of_locate hlocate hentry, hsteady.erase hdirectory hne⟩

/-- What is made outside of the project is not seen there. -/
theorem copied {store : Store} {slot : Nat} (hsandbox : a.options.isolation = .sandbox)
    (hapart : ∀ place, ¬ copyParent slot <+: root ++ place)
    (hstore : ∀ address, ¬ copyParent slot <+: address →
      store.get? address = fs.store.get? address) :
    Steady a start root dirs last { fs with store := store } content := by
  have hinside : store.inside root = fs.store.inside root :=
    funext fun place => hstore _ (hapart place)
  refine ⟨hsteady.directory, fun address hunder hcopies => ?_, ?_, ?_, ?_⟩
  · rw [hstore address (hcopies hsandbox slot)]
    exact hsteady.elsewhere address hunder hcopies
  · rw [hinside]
    exact hsteady.directories
  · rw [hinside]
    exact hsteady.added
  · rw [hinside]
    exact hsteady.holds

end Steady

variable (hsource : SourceInProject a start root dirs last original)

include hsource

/-- No path leads another way. -/
theorem Steady.get?_eq_some (hsteady : Steady a start root dirs last fs content)
    (hfree : a.options.isolation = .sandbox →
      ∀ slot rest, start.store.get? (copyParent slot ++ rest) = none)
    (address : Address) (found : Entry) (hfound : ∀ content, found ≠ .file content)
    (hstored : start.store.get? address = some found) : fs.store.get? address = some found := by
  by_cases hunder : root <+: address
  · obtain ⟨place, rfl⟩ := hunder
    cases found with
    | file content => exact absurd rfl (hfound content)
    | link target => exact absurd hstored (hsource.ne_link place target)
    | directory => exact (hsteady.directories place).mpr hstored
  · rw [hsteady.elsewhere address hunder]
    · exact hstored
    · rintro hsandbox slot ⟨rest, rfl⟩
      rw [hfree hsandbox] at hstored
      cases hstored

theorem Steady.isRegular (hsteady : Steady a start root dirs last fs content) :
    (fs.store.inside root).IsRegular where
  above := by
    have hfolder := (hsteady.directories dirs).mpr
      (hsource.directories (by simp) hsource.stored dirs (List.prefix_refl dirs))
    intro place name entry hentry
    rcases hsteady.added _ entry hentry with hstart | ⟨hsame | hsame, -⟩
    · exact (hsteady.directories place).mpr (hsource.regular.above place name entry hstart)
    · rw [(List.append_inj' hsame rfl).1]
      exact hfolder
    · rw [(List.append_inj' hsame rfl).1]
      exact hfolder
  no_links := by
    intro place target hlink
    rcases hsteady.added place _ hlink with hstart | ⟨-, written, hfile⟩
    · exact hsource.ne_link place target hstart
    · cases hfile

theorem Steady.isComponent (hsteady : Steady a start root dirs last fs content) {entry : Entry}
    (hentry : fs.store.inside root place = some entry) : ∀ name ∈ place, IsComponent name := by
  obtain ⟨hdirs, hlast⟩ := Path.isComponent_concat_iff.mp hsource.isComponent_place
  rcases hsteady.added place entry hentry with hstart | ⟨rfl | rfl, -⟩
  · exact hsource.named place entry hstart
  · exact hsource.isComponent_place
  · exact Path.isComponent_concat_iff.mpr ⟨hdirs, isComponent_backup hlast⟩

/-- The file is still in its project. -/
theorem SourceInProject.of_steady
    (hfree : a.options.isolation = .sandbox →
      ∀ slot rest, start.store.get? (copyParent slot ++ rest) = none)
    (hsteady : Steady a start root dirs last fs content) :
    SourceInProject a fs root dirs last content := by
  have hproject := project_congr a hsteady.directory
  have hkept := hsteady.get?_eq_some hsource hfree
  obtain ⟨hpath, links, hlength, htrail⟩ := Store.locate_eq_ok_iff.mp hsource.project
  obtain ⟨hsome, others, hothers, hway⟩ := Store.locate_eq_ok_iff.mp hsource.found
  refine ⟨?_, ?_, ?_, hsteady.isRegular hsource, ?_, ?_, ?_⟩
  · rw [hsteady.directory]
    exact hsource.absolute
  · rw [hproject, hsteady.directory]
    exact Store.locate_eq_ok_iff.mpr
      ⟨hpath, links, hlength, htrail.rewritten hkept (Or.inl ⟨rfl, rfl⟩)⟩
  · rw [hproject]
    exact hsource.project_path
  · exact fun _ _ => hsteady.isComponent hsource
  · rw [hsteady.directory]
    exact Store.locate_eq_ok_iff.mpr ⟨hsome, others, hothers,
      hway.rewritten hkept (Or.inr ⟨by simp, hsteady.holds, by simp [Store.CanEnd]⟩)⟩
  · rw [FileSystem.absolute, hsteady.directory, hproject]
    exact hsource.spelled

end States

/-- What is in the way of mutants of a file that is patched where it is. -/
def Assignment.hindrances (a : Assignment) (start : FileSystem) (root : Address)
    (dirs : List String) (last : String) : Hindrances where
  saving :=
    if start.store.inside root (backupIn dirs last) = some .directory then some .isDirectory
    else none
  clearing := (invalidateCompiled start a.source.path).failure

section Work

variable {a : Assignment} {start fs : FileSystem} {root : Address} {dirs : List String}
variable {last : String} {original content : Bytes}

variable (a start root dirs last) in
/-- A path to a directory with the name of a compiled file. -/
def IsCompiledDirectory (path : Path) : Prop :=
  ∃ name, IsCompiledName last name ∧
    start.store.inside root (compiledPlace dirs name) = some .directory ∧
      path = pathOf (Path.names (a.project start) ++ compiledPlace dirs name)

theorem Steady.backup_ne_directory (hsteady : Steady a start root dirs last fs content)
    (hopen : (a.hindrances start root dirs last).IsOpen) :
    fs.store.inside root (backupIn dirs last) ≠ some .directory := by
  have hsaving := hopen.2
  rw [Assignment.hindrances] at hsaving
  rw [Ne, hsteady.directories]
  intro hdirectory
  simp [hdirectory] at hsaving

variable (hsource : SourceInProject a start root dirs last original)
variable (hfree : a.options.isolation = .sandbox →
  ∀ slot rest, start.store.get? (copyParent slot ++ rest) = none)

include hsource hfree

theorem Steady.locate_compiled (hsteady : Steady a start root dirs last fs content) {name : String}
    (hname : IsComponent name)
    (hcache : start.store.inside root (dirs ++ ["__pycache__"]) = some .directory) :
    fs.store.locate false fs.directory
        (pathOf (Path.names (a.project start) ++ compiledPlace dirs name)) =
      .ok (root ++ compiledPlace dirs name, fs.store.inside root (compiledPlace dirs name)) := by
  rw [← project_congr a hsteady.directory]
  exact (hsource.of_steady hfree hsteady).locate_compiled hname
    ((hsteady.directories _).mpr hcache) false

theorem Steady.remove_of_isCompiledDirectory (hsteady : Steady a start root dirs last fs content)
    {path : Path} (hpath : IsCompiledDirectory a start root dirs last path) :
    fs.remove path = .error .isDirectory := by
  obtain ⟨name, -, hstored, rfl⟩ := hpath
  have hname := hsource.named _ _ hstored name (by simp [compiledPlace])
  have hcache := hsource.regular.above _ name _ hstored
  rw [FileSystem.remove, hsteady.locate_compiled hsource hfree hname hcache,
    (hsteady.directories _).mpr hstored]
  rfl

theorem Steady.remove_compiled (hsteady : Steady a start root dirs last fs content) {name : String}
    (hname : IsComponent name)
    (hcache : start.store.inside root (dirs ++ ["__pycache__"]) = some .directory)
    (hdirectory : start.store.inside root (compiledPlace dirs name) ≠ some .directory) :
    let path := pathOf (Path.names (a.project start) ++ compiledPlace dirs name)
    fs.remove path = .error .notFound ∨
      ∃ next, fs.remove path = .ok next ∧ Steady a start root dirs last next content := by
  have hthere := hsteady.locate_compiled hsource hfree hname hcache
  rw [Ne, ← hsteady.directories] at hdirectory
  refine hsteady.remove_cases hthere hdirectory fun hsame => ?_
  simpa [compiledPlace] using congrArg List.length hsame

/-- Compiled files can be removed as long as no directory has the name of one. -/
theorem Steady.invalidateCompiled (hsteady : Steady a start root dirs last fs content) :
    Steady a start root dirs last (invalidateCompiled fs a.source.path).files content ∧
      (HasCompiledDirectory (start.store.inside root) dirs last →
        (invalidateCompiled fs a.source.path).failure = some .isDirectory) ∧
      (¬ HasCompiledDirectory (start.store.inside root) dirs last →
        (invalidateCompiled fs a.source.path).failure = none) := by
  have hnow := hsource.of_steady hfree hsteady
  have hproject := project_congr a hsteady.directory
  have hloose : ∀ path ∈ Glob.expand fs (compiledPattern fs a.source.path),
      ¬ IsCompiledDirectory a start root dirs last path →
        ∀ next, Steady a start root dirs last next content →
          next.remove path = .error .notFound ∨
            ∃ later, next.remove path = .ok later ∧
              Steady a start root dirs last later content := by
    intro path hpath hother next hnext
    obtain ⟨name, hname, hstored, rfl⟩ := hnow.mem_compiled_iff.mp hpath
    rw [hproject] at hother ⊢
    obtain ⟨entry, hentry⟩ := Option.ne_none_iff_exists'.mp hstored
    have hcomponent := hnow.named _ _ hentry name (by simp [compiledPlace])
    have hcache := (hsteady.directories _).mp (hnow.regular.above _ name _ hentry)
    exact hnext.remove_compiled hsource hfree hcomponent hcache
      fun hdirectory => hother ⟨name, hname, hdirectory, rfl⟩
  obtain ⟨hleft, hsome, hnone⟩ := removeAll_of_stuck (Steady a start root dirs last · content)
    (IsCompiledDirectory a start root dirs last) hsteady
    (fun path _ hpath next hnext => hnext.remove_of_isCompiledDirectory hsource hfree hpath) hloose
  refine ⟨hleft, fun hdirectory => hsome ?_, fun hdirectory => hnone fun path _ hpath => ?_⟩
  · obtain ⟨name, hname, hstored⟩ := hdirectory
    refine ⟨_, hnow.mem_compiled_iff.mpr ⟨name, hname, ?_, rfl⟩, name, hname, hstored, ?_⟩
    · rw [(hsteady.directories _).mpr hstored]
      simp
    · rw [hproject]
  · obtain ⟨name, hname, hstored, -⟩ := hpath
    exact hdirectory ⟨name, hname, hstored⟩

theorem Steady.exists_discard (hsteady : Steady a start root dirs last fs content)
    (hopen : (a.hindrances start root dirs last).IsOpen) :
    ∃ next, Patch.discard fs (backupPath a.source.path) = .ok next ∧
      Steady a start root dirs last next content := by
  have hlocate := (hsource.of_steady hfree hsteady).locate_backup false
  have hdirectory := hsteady.backup_ne_directory hopen
  rw [Patch.discard]
  rcases hsteady.remove_cases hlocate hdirectory (backupIn_ne dirs last) with
    hgone | ⟨next, hremove, hnext⟩
  · rw [hgone]
    exact ⟨fs, rfl, hsteady⟩
  · rw [hremove]
    exact ⟨next, rfl, hnext⟩

/-- What was in the way at the start is in the way whenever the file is patched. -/
theorem workable_steady : Workable (a.hindrances start root dirs last) a.source.path
    (Steady a start root dirs last) where
  unread := fun _ hreading => by cases hreading
  read := fun _ fs content hsteady =>
    FileSystem.read_eq_ok_iff.mpr ⟨_, (hsource.of_steady hfree hsteady).opened⟩
  unsaved := by
    intro e _ hsaving fs content saved hsteady
    rw [Assignment.hindrances] at hsaving
    split at hsaving
    · next hdirectory =>
        cases hsaving
        rw [FileSystem.write, (hsource.of_steady hfree hsteady).locate_backup true,
          (hsteady.directories _).mpr hdirectory]
        rfl
    · cases hsaving
  save := fun hopen fs content saved hsteady =>
    have hlocate := (hsource.of_steady hfree hsteady).locate_backup true
    have hdirectory := hsteady.backup_ne_directory hopen
    ⟨_, FileSystem.write_of_locate hlocate hdirectory, hsteady.put_backup hdirectory saved⟩
  write := fun _ fs content written hsteady =>
    ⟨_, FileSystem.write_of_locate (hsource.of_steady hfree hsteady).opened (by simp),
      hsteady.put_file written⟩
  drop := fun hopen fs content hsteady => hsteady.exists_discard hsource hfree hopen
  clear := by
    intro _ fs content hsteady
    obtain ⟨-, hstartSome, hstartNone⟩ :=
      (Steady.refl hsource.stored).invalidateCompiled hsource hfree
    obtain ⟨hleft, hsome, hnone⟩ := hsteady.invalidateCompiled hsource hfree
    refine ⟨?_, hleft⟩
    rw [Assignment.hindrances]
    by_cases hdirectory : HasCompiledDirectory (start.store.inside root) dirs last
    · rw [hsome hdirectory, hstartSome hdirectory]
    · rw [hnone hdirectory, hstartNone hdirectory]

end Work

section Sharing

variable {a : Assignment} {start : FileSystem} {root : Address} {dirs : List String}
variable {last : String} {original content : Bytes}
variable (hsource : SourceInProject a start root dirs last original)

include hsource

/-- Workers that are told to share the file do so. -/
theorem shared_of_lock (hlock : a.options.isolation = .lock) :
    Floor.Shared a start (a.hindrances start root dirs last) (Steady a start root dirs last)
      (root ++ (dirs ++ [last])) original := by
  have hfree : a.options.isolation = .sandbox →
      ∀ slot rest, start.store.get? (copyParent slot ++ rest) = none := by simp [hlock]
  refine ⟨workable_steady hsource hfree, ?_, ?_, Steady.refl hsource.stored⟩
  · intro fs content hsteady
    rw [Assignment.guard, hlock,
      Store.realAddress_of_locate (hsource.of_steady hfree hsteady).opened]
  · intro w slot tests content hsteady
    rw [placementOf, hlock]
    exact ⟨w, _, rfl, rfl, hsteady⟩

variable (hsandboxed : Sandboxed a start root (dirs ++ [last])) (hapart : ¬ root <+: ["tmp"])

include hsandboxed hapart

/-- A copy of the project for a slot can always be made. -/
theorem Steady.exists_sandboxOf {w : Workshop}
    (hsteady : Steady a start root dirs last w.files content) (slot : Nat) :
    ∃ w' copy, sandboxOf w (a.project start) slot = .ok (w', copy) ∧
      Steady a start root dirs last w'.files content := by
  have hproject := (hsource.of_steady (fun _ => hsandboxed.free) hsteady).project
  have htemporary : w.files.store.get? ["tmp"] = some .directory := by
    rw [hsteady.elsewhere _ hapart]
    · exact hsandboxed.temporary
    · intro _ slot hunder
      simpa [copyParent] using hunder.length_le
  rw [project_congr a hsteady.directory] at hproject
  rw [sandboxOf]
  cases w.sandboxes.lookup slot with
  | some copy => exact ⟨w, copy, rfl, hsteady⟩
  | none =>
      dsimp only
      rw [hproject]
      refine ⟨_, _, rfl, hsteady.copied hsandboxed.isolation
        (hsandboxed.not_copyParent_above hapart slot) fun address houtside => ?_⟩
      exact get?_copyTree_of_outside htemporary houtside

/-- A file that is not taken to be inside the project is shared, too. -/
theorem shared_of_dots (hdots : Text.startsWith ".." ((dirs ++ [last]).headD "") = true) :
    Floor.Shared a start (a.hindrances start root dirs last) (Steady a start root dirs last)
      (root ++ (dirs ++ [last])) original := by
  have hfree : a.options.isolation = .sandbox →
      ∀ slot rest, start.store.get? (copyParent slot ++ rest) = none := fun _ => hsandboxed.free
  have houtside : ∀ copy : Path,
      Sandbox.isInside ⟨start.directory, a.project start, copy⟩ a.source.path = false := by
    intro copy
    rw [isInside_eq hsandboxed (by simp), hdots]
    rfl
  refine ⟨workable_steady hsource hfree, ?_, ?_, Steady.refl hsource.stored⟩
  · intro fs content hsteady
    rw [Assignment.guard, hsandboxed.isolation,
      Store.realAddress_of_locate (hsource.of_steady hfree hsteady).opened, hsteady.directory,
      project_congr a hsteady.directory]
    dsimp only
    rw [houtside, if_neg (by decide)]
  · intro w slot tests content hsteady
    obtain ⟨w', copy, hmade, hnext⟩ :=
      hsteady.exists_sandboxOf hsource hsandboxed hapart slot
    rw [placementOf, hsandboxed.isolation, project_congr a hsteady.directory]
    dsimp only
    rw [hmade]
    refine ⟨w', _, rfl, ?_, hnext⟩
    dsimp only
    rw [hnext.directory, houtside, if_neg (by decide)]

end Sharing

end MutationTesting.Run
