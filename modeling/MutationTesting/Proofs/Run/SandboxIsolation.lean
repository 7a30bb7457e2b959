import MutationTesting.Proofs.Run.SandboxRuns

/-!
# Sandboxes keep mutants away from the project

A file that the project reaches without leaving itself is mutated in copies only.  All files stay as
they are while the tests run and when the copies are gone, and the tests of a mutant find it at the
place of the file in their own copy.

This needs that the first name on the way to the file does not begin with two dots: such a file is
taken to be outside of the project and changed where it is.  It also needs that the links on the way
do not lead out of the project: an absolute link in a copy leads where it led in the project.
-/

namespace MutationTesting.Run

open MutationTesting.Files
open MutationTesting.Files.FileSystem (pathOf)
open MutationTesting.Files.Path (IsComponent)
open MutationTesting.Testing
open Relation (ReflTransGen)

theorem get?_withoutCopies (fs : FileSystem) (sandboxes : List (Nat × Path)) (address : Address) :
    (withoutCopies fs sandboxes).store.get? address =
      if sandboxes.any fun sandbox => (copyParent sandbox.1).isPrefixOf address then none
      else fs.store.get? address := by
  rw [withoutCopies]
  generalize fs.store = s
  induction sandboxes generalizing s with
  | nil => rfl
  | cons head tail ih =>
      obtain ⟨slot, copy⟩ := head
      rw [List.foldl_cons, ih, Store.get?_eraseTree (by simp [copyParent]), List.any_cons]
      cases (copyParent slot).isPrefixOf address with
      | true => exact ite_self none
      | false => rfl

/-- What the tests of a request find: the mutant, in the copy that they run in, at the place that
the file has in the project. -/
def FindsMutant (a : Assignment) (start now : FileSystem) (m : Mutation) (copy : Path)
    (request : TestRun) : Prop :=
  request.options.directory = some copy ∧
    ∃ mutant, m.render a.source a.options.strict = .ok mutant ∧
      now.read (Path.join copy (Path.relative (start.absolute a.source.path) (a.project start))) =
        .ok (encoded mutant)

namespace Yard

variable {a : Assignment} {start : FileSystem} {root : Address} {dirs : List String}
variable {last : String} {y : Yard}

theorem Sound.cleared (hsandboxed : Sandboxed a start root (dirs ++ [last]))
    (hsound : Sound a start root dirs last y) (address : Address) :
    (withoutCopies y.files y.sandboxes).store.get? address = start.store.get? address := by
  rw [get?_withoutCopies]
  split
  · next hcopy =>
      simp only [List.any_eq_true, List.isPrefixOf_iff_prefix] at hcopy
      obtain ⟨sandbox, -, rest, rfl⟩ := hcopy
      exact (hsandboxed.free sandbox.1 rest).symm
  · next hcopy =>
      simp only [List.any_eq_true, List.isPrefixOf_iff_prefix] at hcopy
      cases hstart : start.store.get? address with
      | some entry => exact hsound.grows address entry hstart
      | none =>
          cases hnow : y.files.store.get? address with
          | none => rfl
          | some entry =>
              rcases hsound.added address entry hnow with hstored | hnew
              · rw [hstart] at hstored
                cases hstored
              · obtain ⟨slot, copy, hmem, hunder⟩ := hnew
                exact absurd ⟨(slot, copy), hmem, hunder⟩ hcopy

theorem Sound.mutant_seen (hsandboxed : Sandboxed a start root (dirs ++ [last]))
    (hsound : Sound a start root dirs last y) {slot : Nat} {m : Mutation} {p : Placement}
    {kept : Bytes} (htesting : y.occupant slot = some ⟨m, p, .testing kept⟩) :
    ∃ copy, y.sandboxes.lookup slot = some copy ∧
      FindsMutant a start y.files m copy p.request := by
  have hroot := hsandboxed.isComponent_copyRoot slot
  have hplace := hsandboxed.isComponent_place
  obtain ⟨hdirs, hlast⟩ := Path.isComponent_concat_iff.mp hplace
  obtain ⟨copy, hlookup⟩ := Option.isSome_iff_exists.mp (hsound.housed slot _ htesting)
  have hstands := hsound.stands slot copy hlookup
  rw [htesting] at hstands
  obtain ⟨-, hoptions, file, folder, content, hfile, hcopy, mutant, hmutant, rfl⟩ := hstands
  obtain rfl := hsound.copies slot copy hlookup
  refine ⟨_, hlookup, hoptions, mutant, hmutant, ?_⟩
  rw [Path.relative_of_names (by simp) hsandboxed.below, Path.join_pathOf hroot hplace (by simp),
    FileSystem.read_eq_ok_iff]
  exact ⟨_, locate_copyPath hroot hdirs hlast hfile hcopy⟩

end Yard

/-- A pool has its tests run beside the project, and leaves the project and nothing else. -/
structure RunsBeside (a : Assignment) (start : FileSystem) (jobs : List Job) : Prop where
  reads : ∀ o ∈ (runJobs a start jobs).observations, ∀ path content,
    start.read path = .ok content → o.files.read path = .ok content
  mutant_seen : ∀ o ∈ (runJobs a start jobs).observations, ∃ job ∈ jobs, ∃ copy,
    FindsMutant a start o.files job.mutation copy o.request
  cleared : ∀ address,
    (runJobs a start jobs).files.store.get? address = start.store.get? address

/-- The mutant `a - b` of a file that holds `a + b`, in a sandbox. -/
def sandboxedDifference (path : Path) : Assignment :=
  let a := (differenceIn path).assignment
  { a with options := { a.options with isolation := .sandbox } }

def differenceJob (path : Path) : Job := ⟨0, (differenceIn path).mutation⟩

/-- A directory for copies, and a project that is the current directory, with what is in it. -/
def projectOf (entries : List (Address × Entry)) : FileSystem :=
  ⟨⟨(["tmp"], .directory) :: (["p"], .directory) :: entries⟩, "/p"⟩

theorem project_projectOf {a : Assignment} (hnone : a.options.invocation.directory = none)
    (entries : List (Address × Entry)) : a.project (projectOf entries) = pathOf ["p"] := by
  rw [Assignment.project, hnone]
  show Path.absolute "/p" "/p" = pathOf ["p"]
  decide

theorem locate_projectOf (entries : List (Address × Entry)) :
    (projectOf entries).store.locate true "/p" (pathOf ["p"]) = .ok (["p"], some .directory) := rfl

theorem sandboxed_projectOf {path : Path} {place : List String} {entries : List (Address × Entry)}
    (hentries : ∀ e ∈ entries, e.1.head? = some "p")
    (hdistinct : (projectOf entries).store.Distinct) (hplace : ∀ name ∈ place, IsComponent name)
    (hjoin : Path.join "/p" path = pathOf ("p" :: place)) :
    Sandboxed (sandboxedDifference path) (projectOf entries) ["p"] place where
  isolation := rfl
  absolute := by
    show Path.isAbsolute "/p" = true
    decide
  distinct := hdistinct
  temporary := rfl
  free := by
    intro slot rest
    have hlookup : entries.lookup (copyParent slot ++ rest) = none := by
      rw [List.lookup_eq_none_iff]
      intro e he
      have hhead := hentries e he
      rw [bne_iff_ne]
      intro hsame
      rw [← hsame] at hhead
      simp [copyParent] at hhead
    simpa [Store.get?, projectOf, copyParent, List.lookup_cons] using hlookup
  project := by
    rw [project_projectOf rfl]
    exact locate_projectOf entries
  below := by
    have hall : ∀ name ∈ "p" :: place, IsComponent name :=
      List.forall_mem_cons.mpr ⟨by decide, hplace⟩
    rw [project_projectOf rfl, Path.names_pathOf (by decide)]
    show Path.names (Path.normalize (Path.join "/p" path)) = "p" :: place
    rw [hjoin, Path.normalize_pathOf hall, Path.names_pathOf hall]

/-- A project with a file whose name begins with two dots. -/
def dottedName : FileSystem := projectOf [(["p", "..a.py"], .file (encoded "a + b"))]

theorem not_runsBeside {a : Assignment} {start : FileSystem} {jobs : List Job} (path : Path)
    (content changed : Bytes) (hread : start.read path = .ok content)
    (hruns : (runJobs a start jobs).observations.map (fun o => o.files.read path) = [.ok changed])
    (hchanged : changed ≠ content) : ¬ RunsBeside a start jobs := by
  intro hbeside
  obtain ⟨o, ho, hnow⟩ : ∃ o ∈ (runJobs a start jobs).observations,
      o.files.read path = .ok changed := by
    rw [← List.mem_map, hruns]
    exact List.mem_singleton_self _
  rw [hbeside.reads o ho path content hread, Except.ok.injEq] at hnow
  exact hchanged hnow.symm

/-- A project with a file and an absolute link to it. -/
def absoluteLink : FileSystem :=
  projectOf [(["p", "a.py"], .file (encoded "a + b")), (["p", "b.py"], .link "/p/a.py")]

/-- A file of the project holds the mutant while the tests run, for a link in the copy leads there. -/
theorem file_overwritten_over_absolute_link :
    ¬ ∀ (a : Assignment) (start : FileSystem) (root : Address) (place : List String),
      Sandboxed a start root place → Text.startsWith ".." (place.headD "") = false →
        ∀ original, start.read a.source.path = .ok original →
          ∀ jobs, RunsBeside a start jobs := by
  intro hevery
  have hsandboxed : Sandboxed (sandboxedDifference "b.py") absoluteLink ["p"] ["b.py"] :=
    sandboxed_projectOf (by decide) (by decide) (by decide) (by decide)
  have hbeside := hevery _ _ _ _ hsandboxed (by decide +kernel) (encoded "a + b")
    (by decide +kernel) [differenceJob "b.py"]
  exact not_runsBeside "/p/a.py" (encoded "a + b") (encoded "a - b") (by decide +kernel)
    (by decide +kernel) (by decide +kernel) hbeside

end MutationTesting.Run
