import Mathlib.Logic.Function.Basic
import Mathlib.Logic.Relation
import MutationTesting.Proofs.Files.Additions
import MutationTesting.Proofs.Run.SandboxWorker

/-!
# Workers in sandboxes

Every slot of a pool has a copy of the project, made when it is first needed.  The workers of all
slots take their steps in any order.  None of them changes anything that was there before the first
copy was made, and each finds the copy of its slot as it was made.
-/

namespace MutationTesting.Run

open MutationTesting.Files
open MutationTesting.Files.FileSystem (pathOf)
open MutationTesting.Files.Path (IsComponent)
open MutationTesting.Testing
open Relation (ReflTransGen)

namespace Assignment

/-- The same work, done at the file of a placement. -/
def placedAt (a : Assignment) (p : Placement) : Assignment :=
  { a with
    options := { a.options with isolation := .lock }
    source := { a.source with path := p.target }
    runner := fun files _ => a.runner files p.request }

/-- The worker of a mutation at its placement. -/
def worker (a : Assignment) (m : Mutation) (p : Placement) : SharedTask := ⟨a.placedAt p, m, rfl⟩

end Assignment

/-- A worker in its slot. -/
structure Occupant where
  mutation : Mutation
  placement : Placement
  phase : Phase

/-- The files, the copies of the project by slot, and the workers by slot. -/
structure Yard where
  files : FileSystem
  sandboxes : List (Nat × Path)
  occupant : Nat → Option Occupant

namespace Yard

def initial (fs : FileSystem) : Yard := ⟨fs, [], fun _ => none⟩

/-- One step in one slot.  The tests of a mutant may end in any way, but do not write. -/
inductive Step (a : Assignment) : Yard → Yard → Prop
  | place {y : Yard} {slot : Nat} {m : Mutation} {observations : List Observation} {w : Workshop}
      {p : Placement} (hvacant : y.occupant slot = none)
      (hplaced : placementOf a ⟨y.files, y.sandboxes, observations⟩ slot (a.testsFor m) =
        .ok (w, p)) :
      Step a y ⟨w.files, w.sandboxes, Function.update y.occupant slot (some ⟨m, p, .entered⟩)⟩
  | advance {y : Yard} {slot : Nat} {m : Mutation} {p : Placement} {phase : Phase}
      (outcome : Except RunFailure Nat) (hoccupied : y.occupant slot = some ⟨m, p, phase⟩) :
      Step a y
        ⟨((a.worker m p).advance outcome y.files phase).1, y.sandboxes,
          Function.update y.occupant slot
            (some ⟨m, p, ((a.worker m p).advance outcome y.files phase).2⟩)⟩
  | finish {y : Yard} {slot : Nat} {m : Mutation} {p : Placement} {result : MutationResult}
      (hended : y.occupant slot = some ⟨m, p, .ended result⟩) :
      Step a y { y with occupant := Function.update y.occupant slot none }

/-- What the workers of a pool can make of files. -/
def Reachable (a : Assignment) (start : FileSystem) (y : Yard) : Prop :=
  ReflTransGen (Step a) (initial start) y

end Yard

/-- A file whose path lies below the project, which is to be mutated in sandboxes.  There is room
for the copies. -/
structure Sandboxed (a : Assignment) (start : FileSystem) (root : Address) (place : List String) :
    Prop where
  isolation : a.options.isolation = .sandbox
  absolute : Path.isAbsolute start.directory = true
  distinct : start.store.Distinct
  temporary : start.store.get? ["tmp"] = some .directory
  free : ∀ slot rest, start.store.get? (copyParent slot ++ rest) = none
  project : start.store.locate true start.directory (a.project start) =
    .ok (root, some .directory)
  below : Path.names (start.absolute a.source.path) = Path.names (a.project start) ++ place

namespace Sandboxed

variable {a : Assignment} {start : FileSystem} {root : Address} {place : List String}

theorem isComponent_project (hsandboxed : Sandboxed a start root place) :
    ∀ name ∈ Path.names (a.project start), IsComponent name :=
  a.isComponent_project hsandboxed.absolute

theorem isComponent_place (hsandboxed : Sandboxed a start root place) :
    ∀ name ∈ place, IsComponent name := by
  intro name hname
  refine Path.isComponent_of_mem_names_absolute hsandboxed.absolute a.source.path name ?_
  rw [← FileSystem.absolute, hsandboxed.below]
  exact List.mem_append_right _ hname

theorem isComponent_copyRoot (hsandboxed : Sandboxed a start root place) (slot : Nat) :
    ∀ name ∈ copyRoot (a.project start) slot, IsComponent name :=
  isComponent_of_mem_copyRoot hsandboxed.isComponent_project

/-- A project that does not hold its own copies has nothing in common with them. -/
theorem not_copyParent_above (hsandboxed : Sandboxed a start root place)
    (hapart : ¬ root <+: ["tmp"]) (slot : Nat) (other : Address) :
    ¬ copyParent slot <+: root ++ other := by
  intro hunder
  have hnot : ¬ copyParent slot <+: root := by
    rintro ⟨rest, rfl⟩
    have hroot := Store.get?_of_locate_directory hsandboxed.project
    rw [hsandboxed.free] at hroot
    cases hroot
  rcases List.prefix_or_prefix_of_prefix hunder (List.prefix_append root other) with habove | hbelow
  · exact hnot habove
  · change root <+: ["tmp"] ++ [_] at hbelow
    rcases List.prefix_concat_iff.mp hbelow with hsame | hshorter
    · exact hnot (hsame ▸ List.prefix_refl _)
    · exact hapart hshorter

/-- Who runs the tests does not matter. -/
theorem with_runner (hsandboxed : Sandboxed a start root place) (runner : Runner) :
    Sandboxed { a with runner := runner } start root place :=
  ⟨hsandboxed.isolation, hsandboxed.absolute, hsandboxed.distinct, hsandboxed.temporary,
    hsandboxed.free, hsandboxed.project, hsandboxed.below⟩

end Sandboxed

section Placements

variable {a : Assignment} {start : FileSystem} {root : Address} {place : List String}
variable {w w' : Workshop} {slot : Nat} {tests : List Path} {p : Placement}

/-- The path of the file seen from the project. -/
theorem placeInProject_eq (hsandboxed : Sandboxed a start root place) (hsome : place ≠ [])
    (copy : Path) :
    Sandbox.placeInProject ⟨start.directory, a.project start, copy⟩ a.source.path =
      String.intercalate "/" place :=
  Path.relative_of_names hsome hsandboxed.below

/-- The file is taken to be inside the project if the first name on the way to it does not begin
with two dots, whatever else it is. -/
theorem isInside_eq (hsandboxed : Sandboxed a start root place) (hsome : place ≠ [])
    (copy : Path) :
    Sandbox.isInside ⟨start.directory, a.project start, copy⟩ a.source.path =
      !Text.startsWith ".." (place.headD "") := by
  rw [Sandbox.isInside, placeInProject_eq hsandboxed hsome]
  cases place with
  | nil => exact absurd rfl hsome
  | cons first rest =>
      rw [Path.startsWith_dots_intercalate (hsandboxed.isComponent_place first List.mem_cons_self)]
      rfl

/-- A placement in a sandbox: the slot has a copy, and the file is the copied one if it is taken to
be inside the project. -/
theorem placementOf_eq_ok (hsandboxed : Sandboxed a start root place)
    (hdirectory : w.files.directory = start.directory)
    (hplaced : placementOf a w slot tests = .ok (w', p)) :
    ∃ copy, sandboxOf w (a.project start) slot = .ok (w', copy) ∧
      p.request.options.directory = some copy ∧
      p.target =
        if Sandbox.isInside ⟨w'.files.directory, a.project start, copy⟩ a.source.path then
          Sandbox.relocate ⟨w'.files.directory, a.project start, copy⟩ a.source.path
        else a.source.path := by
  simp only [placementOf, hsandboxed.isolation, project_congr a hdirectory] at hplaced
  obtain ⟨⟨made, copy⟩, hsandbox, hrest⟩ := bind_eq_ok_iff.mp hplaced
  simp only [pure, Except.pure, Except.ok.injEq, Prod.mk.injEq] at hrest
  obtain ⟨rfl, rfl⟩ := hrest
  refine ⟨copy, hsandbox, ?_, ?_⟩ <;> dsimp only

/-- The copy of a file is at the same place of the copy of its project. -/
theorem relocate_eq (hsandboxed : Sandboxed a start root place) (hsome : place ≠ [])
    (hfirst : Text.startsWith ".." (place.headD "") = false) (slot : Nat) :
    Sandbox.relocate ⟨start.directory, a.project start, pathOf (copyRoot (a.project start) slot)⟩
      a.source.path = pathOf (copyRoot (a.project start) slot ++ place) := by
  have hroot := hsandboxed.isComponent_copyRoot slot
  have hplace := hsandboxed.isComponent_place
  rw [Sandbox.relocate, isInside_eq hsandboxed hsome, hfirst, Bool.not_false, if_pos rfl,
    placeInProject_eq hsandboxed hsome, Path.join_pathOf hroot hplace hsome,
    Path.normalize_pathOf (List.forall_mem_append.mpr ⟨hroot, hplace⟩)]

end Placements

section Frames

variable {c : Contents} {s s' : Store} {root : Address} {dirs : List String} {last : String}

/-- A copy does not depend on what is stored elsewhere. -/
theorem IsCopy.congr (hcopy : IsCopy c s root)
    (hsame : ∀ address, address <+: root ∨ root <+: address → s'.get? address = s.get? address) :
    IsCopy c s' root where
  above := fun upper hupper hunder =>
    (hsame upper (Or.inl hunder)).trans (hcopy.above upper hupper hunder)
  kept := fun place entry hentry =>
    (hsame _ (Or.inr (List.prefix_append root place))).trans (hcopy.kept place entry hentry)
  left_out := fun place hignored =>
    (hsame _ (Or.inr (List.prefix_append root place))).trans (hcopy.left_out place hignored)

theorem IsChangedCopy.congr {file backup : Address} {content : Bytes} {saved : Option Bytes}
    (hcopy : IsChangedCopy c s root file backup content saved)
    (hsame : ∀ address, address <+: root ∨ root <+: address → s'.get? address = s.get? address) :
    IsChangedCopy c s' root file backup content saved where
  above := fun upper hupper hunder =>
    (hsame upper (Or.inl hunder)).trans (hcopy.above upper hupper hunder)
  kept := fun place entry hplace hentry =>
    (hsame _ (Or.inr (List.prefix_append root place))).trans (hcopy.kept place entry hplace hentry)
  left_out := fun place hplace hignored =>
    (hsame _ (Or.inr (List.prefix_append root place))).trans
      (hcopy.left_out place hplace hignored)
  holds := (hsame _ (Or.inr (List.prefix_append root file))).trans hcopy.holds
  saved := (hsame _ (Or.inr (List.prefix_append root backup))).trans hcopy.saved

theorem Phase.Shelters.congr {t : SharedTask} {phase : Phase}
    (hphase : phase.Shelters t c s root dirs last)
    (hsame : ∀ address, address <+: root ∨ root <+: address → s'.get? address = s.get? address) :
    phase.Shelters t c s' root dirs last := by
  cases phase with
  | entered | ended _ => exact IsCopy.congr hphase hsame
  | loaded mutant kept | saved mutant kept =>
      obtain ⟨file, folder, hfile, hcopy, hmutant⟩ := hphase
      exact ⟨file, folder, hfile, hcopy.congr hsame, hmutant⟩
  | patched kept | testing kept =>
      obtain ⟨file, folder, mutant, hfile, hcopy, hmutant⟩ := hphase
      exact ⟨file, folder, mutant, hfile, hcopy.congr hsame, hmutant⟩
  | tested kept result =>
      obtain ⟨file, folder, content, hfile, hcopy⟩ := hphase
      exact ⟨file, folder, content, hfile, hcopy.congr hsame⟩
  | restored result =>
      obtain ⟨file, folder, kept, hfile, hcopy⟩ := hphase
      exact ⟨file, folder, kept, hfile, hcopy.congr hsame⟩
  | cleaned result =>
      obtain ⟨file, folder, kept, hfile, hcopy⟩ := hphase
      exact ⟨file, folder, kept, hfile, hcopy.congr hsame⟩

/-- The copies of two slots have nothing in common. -/
theorem not_copyParent_above {project : Path} {slot other : Nat} {address : Address}
    (hne : slot ≠ other)
    (hother : address <+: copyRoot project other ∨ copyRoot project other <+: address) :
    ¬ copyParent slot <+: address := by
  intro hunder
  rcases hother with habove | ⟨rest, rfl⟩
  · exact hne (eq_of_copyParent_above (hunder.trans habove))
  · rw [copyRoot, List.append_assoc] at hunder
    exact hne (eq_of_copyParent_above hunder)

end Frames

namespace Yard

section Soundness

variable (a : Assignment) (start : FileSystem) (root : Address) (dirs : List String) (last : String)

/-- What the slot of a copy makes of it. -/
def Stands (s : Store) (slot : Nat) : Option Occupant → Prop
  | none => IsCopy (start.store.inside root) s (copyRoot (a.project start) slot)
  | some o =>
    o.placement.target = copyPath (copyRoot (a.project start) slot) dirs last ∧
    o.placement.request.options.directory = some (pathOf (copyRoot (a.project start) slot)) ∧
    o.phase.Shelters (a.worker o.mutation o.placement) (start.store.inside root) s
      (copyRoot (a.project start) slot) dirs last

/-- What is true of a yard at every moment. -/
structure Sound (y : Yard) : Prop where
  directory : y.files.directory = start.directory
  distinct : y.files.store.Distinct
  grows : start.store.Grows y.files.store
  /-- Whatever is new belongs to a copy. -/
  added : ∀ address entry, y.files.store.get? address = some entry →
    start.store.get? address = some entry ∨
      ∃ slot copy, (slot, copy) ∈ y.sandboxes ∧ copyParent slot <+: address
  copies : ∀ slot copy, y.sandboxes.lookup slot = some copy →
    copy = pathOf (copyRoot (a.project start) slot)
  stands : ∀ slot copy, y.sandboxes.lookup slot = some copy →
    Stands a start root dirs last y.files.store slot (y.occupant slot)
  housed : ∀ slot o, y.occupant slot = some o → (y.sandboxes.lookup slot).isSome = true

end Soundness

section Invariant

variable {a : Assignment} {start : FileSystem} {root : Address} {dirs : List String}
variable {last : String} {y next : Yard}

theorem sound_initial (hdistinct : start.store.Distinct) :
    Sound a start root dirs last (initial start) where
  directory := rfl
  distinct := hdistinct
  grows := fun _ _ => id
  added := fun _ _ => Or.inl
  copies := by simp [initial]
  stands := by simp [initial]
  housed := by simp [initial]

theorem mem_of_lookup_eq_some {sandboxes : List (Nat × Path)} {slot : Nat} {copy : Path}
    (hlookup : sandboxes.lookup slot = some copy) : (slot, copy) ∈ sandboxes := by
  obtain ⟨before, after, rfl, -⟩ := List.lookup_eq_some_iff.mp hlookup
  simp

theorem not_mem_of_lookup_eq_none {sandboxes : List (Nat × Path)} {slot : Nat} {copy : Path}
    (hlookup : sandboxes.lookup slot = none) : (slot, copy) ∉ sandboxes := by
  intro hmem
  simpa using List.lookup_eq_none_iff.mp hlookup _ hmem

theorem lookup_concat_of_ne {sandboxes : List (Nat × Path)} {slot other : Nat} {copy : Path}
    (hne : other ≠ slot) :
    (sandboxes ++ [(slot, copy)]).lookup other = sandboxes.lookup other := by
  rw [List.lookup_append, List.lookup_cons, beq_false_of_ne hne]
  simp

/-- Nobody works in a slot without a copy. -/
theorem Sound.vacant (hsound : Sound a start root dirs last y) {slot : Nat}
    (hlookup : y.sandboxes.lookup slot = none) : y.occupant slot = none := by
  cases hoccupant : y.occupant slot with
  | none => rfl
  | some o =>
      have hhoused := hsound.housed slot o hoccupant
      rw [hlookup] at hhoused
      cases hhoused

theorem Stands.congr {s s' : Store} {slot : Nat} {o : Option Occupant}
    (hstands : Stands a start root dirs last s slot o)
    (hsame : ∀ address, address <+: copyRoot (a.project start) slot ∨
      copyRoot (a.project start) slot <+: address → s'.get? address = s.get? address) :
    Stands a start root dirs last s' slot o := by
  cases o with
  | none => exact IsCopy.congr hstands hsame
  | some o => exact ⟨hstands.1, hstands.2.1, hstands.2.2.congr hsame⟩

variable (hsandboxed : Sandboxed a start root (dirs ++ [last]))

include hsandboxed

/-- There is room for a copy in a slot that has none. -/
theorem Sound.free (hsound : Sound a start root dirs last y) {slot : Nat}
    (hlookup : y.sandboxes.lookup slot = none) (rest : Address) :
    y.files.store.get? (copyParent slot ++ rest) = none := by
  cases hstored : y.files.store.get? (copyParent slot ++ rest) with
  | none => rfl
  | some entry =>
      rcases hsound.added _ _ hstored with hstart | ⟨other, copy, hmem, hunder⟩
      · rw [hsandboxed.free] at hstart
        cases hstart
      · rw [eq_of_copyParent_above hunder] at hmem
        exact absurd hmem (not_mem_of_lookup_eq_none hlookup)

/-- A slot that has no copy yet can get one. -/
theorem Sound.exists_sandboxOf (hsound : Sound a start root dirs last y)
    (observations : List Observation) (slot : Nat) :
    ∃ made, sandboxOf ⟨y.files, y.sandboxes, observations⟩ (a.project start) slot = .ok made := by
  have hproject : y.files.store.locate true y.files.directory (a.project start) =
      .ok (root, some .directory) := by
    rw [hsound.directory]
    exact hsound.grows.locate hsandboxed.project
  rw [sandboxOf]
  dsimp only
  cases y.sandboxes.lookup slot with
  | some copy => exact ⟨_, rfl⟩
  | none =>
      dsimp only
      rw [hproject]
      exact ⟨_, rfl⟩

/-- So a job can always be placed. -/
theorem Sound.exists_placementOf (hsound : Sound a start root dirs last y)
    (observations : List Observation) (slot : Nat) (tests : List Path) :
    ∃ w p, placementOf a ⟨y.files, y.sandboxes, observations⟩ slot tests = .ok (w, p) := by
  obtain ⟨made, hmade⟩ := hsound.exists_sandboxOf hsandboxed observations slot
  rw [placementOf, hsandboxed.isolation, project_congr a hsound.directory]
  dsimp only
  rw [hmade]
  exact ⟨_, _, rfl⟩

/-- Making a copy for a slot leaves a yard sound. -/
theorem Sound.make (hsound : Sound a start root dirs last y) {slot : Nat}
    (hlookup : y.sandboxes.lookup slot = none) {source : Address}
    (hlocate : y.files.store.locate true y.files.directory (a.project start) =
      .ok (source, some .directory)) :
    Sound a start root dirs last
      { y with
        files := { y.files with
          store := copyTree y.files.store source (copyRoot (a.project start) slot) }
        sandboxes := y.sandboxes ++ [(slot, pathOf (copyRoot (a.project start) slot))] } := by
  have hfree := hsound.free hsandboxed hlookup
  have htmp := hsound.grows _ _ hsandboxed.temporary
  have hsource : source = root := by
    have hthere := hsound.grows.locate hsandboxed.project
    rw [hsound.directory, hthere] at hlocate
    cases hlocate
    rfl
  subst hsource
  have hdirectory := Store.get?_of_locate_directory hlocate
  have hvacant := hsound.vacant hlookup
  refine ⟨hsound.directory, distinct_copyTree htmp hfree hsound.distinct, ?_, ?_, ?_, ?_, ?_⟩
  · exact fun address entry hentry =>
      get?_copyTree_of_stored htmp hfree (hsound.grows address entry hentry)
  · intro address entry hentry
    by_cases hunder : copyParent slot <+: address
    · exact Or.inr ⟨slot, pathOf (copyRoot (a.project start) slot), by simp, hunder⟩
    · rw [get?_copyTree_of_outside htmp hunder] at hentry
      refine (hsound.added address entry hentry).imp_right ?_
      rintro ⟨other, copy, hmem, hother⟩
      exact ⟨other, copy, List.mem_append_left _ hmem, hother⟩
  · intro other copy hmore
    by_cases hne : other = slot
    · subst hne
      rw [List.lookup_append, hlookup] at hmore
      simpa [eq_comm] using hmore
    · exact hsound.copies other copy ((lookup_concat_of_ne hne).symm.trans hmore)
  · intro other copy hmore
    by_cases hne : other = slot
    · subst hne
      rw [hvacant]
      exact (isCopy_copyTree htmp hfree hsound.distinct hdirectory).mono
        fun place entry hentry => hsound.grows _ _ hentry
    · dsimp only at hmore
      rw [lookup_concat_of_ne hne] at hmore
      refine (hsound.stands other copy hmore).congr fun address hnear => ?_
      exact get?_copyTree_of_outside htmp (not_copyParent_above (Ne.symm hne) hnear)
  · intro other o hoccupied
    rw [List.lookup_append, Option.isSome_or, hsound.housed other o hoccupied]
    rfl

omit hsandboxed in
/-- Nothing that was there before lies in a copy. -/
theorem not_prefix_of_stored
    (hfree : ∀ slot rest, start.store.get? (copyParent slot ++ rest) = none)
    {address : Address} {entry : Entry} (hstored : start.store.get? address = some entry)
    (slot : Nat) : ¬ copyParent slot <+: address := by
  rintro ⟨rest, rfl⟩
  rw [hfree] at hstored
  cases hstored

omit hsandboxed in
/-- A new occupant of a slot, and new files that differ in the copy of the slot only, leave a yard
sound if the occupant fits the copy. -/
theorem Sound.moved (hsound : Sound a start root dirs last y)
    (hfree : ∀ slot rest, start.store.get? (copyParent slot ++ rest) = none) {slot : Nat}
    {copy : Path} (hlookup : y.sandboxes.lookup slot = some copy) {files : FileSystem}
    (hconfined : Confined (copyRoot (a.project start) slot) y.files files) (o : Option Occupant)
    (hstands : Stands a start root dirs last files.store slot o) :
    Sound a start root dirs last
      ⟨files, y.sandboxes, Function.update y.occupant slot o⟩ := by
  have hbelow : copyParent slot <+: copyRoot (a.project start) slot := List.prefix_append _ _
  refine ⟨hconfined.directory.trans hsound.directory, hconfined.distinct hsound.distinct, ?_, ?_,
    hsound.copies, ?_, ?_⟩
  · intro address entry hentry
    rw [hconfined.outside address fun hunder =>
      not_prefix_of_stored hfree hentry slot (hbelow.trans hunder)]
    exact hsound.grows address entry hentry
  · intro address entry hentry
    by_cases hunder : copyRoot (a.project start) slot <+: address
    · exact Or.inr ⟨slot, copy, mem_of_lookup_eq_some hlookup, hbelow.trans hunder⟩
    · rw [hconfined.outside address hunder] at hentry
      exact hsound.added address entry hentry
  · intro other found hfound
    by_cases hne : other = slot
    · subst hne
      dsimp only
      rw [Function.update_self]
      exact hstands
    · dsimp only
      rw [Function.update_of_ne hne]
      refine (hsound.stands other found hfound).congr fun address hnear => ?_
      exact hconfined.outside address fun hunder =>
        not_copyParent_above (Ne.symm hne) hnear (hbelow.trans hunder)
  · intro other found hfound
    by_cases hne : other = slot
    · subst hne
      rw [hlookup]
      rfl
    · dsimp only at hfound
      rw [Function.update_of_ne hne] at hfound
      exact hsound.housed other found hfound

variable (hfirst : Text.startsWith ".." ((dirs ++ [last]).headD "") = false)

include hfirst

theorem Sound.place (hsound : Sound a start root dirs last y) {slot : Nat} {m : Mutation}
    {observations : List Observation} {w : Workshop} {p : Placement}
    (hvacant : y.occupant slot = none)
    (hplaced : placementOf a ⟨y.files, y.sandboxes, observations⟩ slot (a.testsFor m) =
      .ok (w, p)) :
    Sound a start root dirs last
      ⟨w.files, w.sandboxes, Function.update y.occupant slot (some ⟨m, p, .entered⟩)⟩ := by
  obtain ⟨copy, hsandbox, hoptions, htarget⟩ :=
    placementOf_eq_ok hsandboxed hsound.directory hplaced
  rw [directory_of_sandboxOf hsandbox, hsound.directory] at htarget
  have hplacement : copy = pathOf (copyRoot (a.project start) slot) →
      p.target = copyPath (copyRoot (a.project start) slot) dirs last := by
    rintro rfl
    rw [htarget, isInside_eq hsandboxed (by simp), hfirst, Bool.not_false, if_pos rfl,
      relocate_eq hsandboxed (by simp) hfirst, copyPath]
  have hmade : Sound a start root dirs last ⟨w.files, w.sandboxes, y.occupant⟩ ∧
      w.sandboxes.lookup slot = some copy := by
    rcases sandboxOf_eq_ok hsandbox with ⟨rfl, hlookup⟩ | ⟨hlookup, rfl, source, hlocate, rfl⟩
    · exact ⟨hsound, hlookup⟩
    · refine ⟨hsound.make hsandboxed hlookup hlocate, ?_⟩
      rw [List.lookup_append, hlookup]
      simp
  obtain ⟨hnext, hlookup⟩ := hmade
  have hcopy := hnext.copies slot copy hlookup
  have hstands := hnext.stands slot copy hlookup
  dsimp only at hstands
  rw [hvacant] at hstands
  exact hnext.moved hsandboxed.free hlookup (Confined.refl _ _) (some ⟨m, p, .entered⟩)
    ⟨hplacement hcopy, hoptions.trans (congrArg some hcopy), hstands⟩

omit hfirst in
theorem Sound.advance (hsound : Sound a start root dirs last y) {links : List Address}
    {file : Address} {original : Bytes}
    (hway : (start.store.inside root).Way [] (dirs ++ [last]) links file (.file original))
    {slot : Nat} {m : Mutation} {p : Placement} {phase : Phase}
    (outcome : Except RunFailure Nat) (hoccupied : y.occupant slot = some ⟨m, p, phase⟩) :
    Sound a start root dirs last
      ⟨((a.worker m p).advance outcome y.files phase).1, y.sandboxes,
        Function.update y.occupant slot
          (some ⟨m, p, ((a.worker m p).advance outcome y.files phase).2⟩)⟩ := by
  obtain ⟨hdirs, hlast⟩ := Path.isComponent_concat_iff.mp hsandboxed.isComponent_place
  obtain ⟨copy, hlookup⟩ := Option.isSome_iff_exists.mp (hsound.housed slot _ hoccupied)
  have hstands := hsound.stands slot copy hlookup
  rw [hoccupied] at hstands
  obtain ⟨htarget, hoptions, hphase⟩ := hstands
  obtain ⟨hconfined, hnext⟩ := SharedTask.sheltered_advance (t := a.worker m p)
    (hsandboxed.isComponent_copyRoot slot) (by simp [copyRoot]) hdirs hlast htarget hway outcome
    hphase
  exact hsound.moved hsandboxed.free hlookup hconfined _ ⟨htarget, hoptions, hnext⟩

omit hfirst in
theorem Sound.finish (hsound : Sound a start root dirs last y) {slot : Nat} {m : Mutation}
    {p : Placement} {result : MutationResult}
    (hended : y.occupant slot = some ⟨m, p, .ended result⟩) :
    Sound a start root dirs last { y with occupant := Function.update y.occupant slot none } := by
  obtain ⟨copy, hlookup⟩ := Option.isSome_iff_exists.mp (hsound.housed slot _ hended)
  have hstands := hsound.stands slot copy hlookup
  rw [hended] at hstands
  exact hsound.moved hsandboxed.free hlookup (Confined.refl _ _) none hstands.2.2

variable {links : List Address} {file : Address} {original : Bytes}
variable (hway : (start.store.inside root).Way [] (dirs ++ [last]) links file (.file original))

include hway

/-- No step of a worker breaks a sound yard. -/
theorem Step.sound (hstep : Step a y next) (hsound : Sound a start root dirs last y) :
    Sound a start root dirs last next := by
  cases hstep with
  | place hvacant hplaced => exact hsound.place hsandboxed hfirst hvacant hplaced
  | advance outcome hoccupied => exact hsound.advance hsandboxed hway outcome hoccupied
  | finish hended => exact hsound.finish hsandboxed hended

theorem Reachable.sound (hreachable : Reachable a start y) : Sound a start root dirs last y := by
  induction hreachable with
  | refl => exact sound_initial hsandboxed.distinct
  | tail _ hstep ih => exact hstep.sound hsandboxed hfirst hway ih

end Invariant

end Yard

end MutationTesting.Run
