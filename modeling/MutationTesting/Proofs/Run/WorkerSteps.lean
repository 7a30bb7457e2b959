import Mathlib.Logic.Function.Iterate
import MutationTesting.Proofs.Failure
import MutationTesting.Proofs.Files.Ways
import MutationTesting.Run.Pool

/-!
# The steps of a worker on a shared file

A worker that patches the file itself reads the original, writes the backup, writes the mutant, has
the tests run, writes the original back and clears away what it made.  These are steps of their own
here, since other workers may come between them.  Taken one after the other they carry out the job.
-/

namespace MutationTesting.Run

open MutationTesting.Files
open MutationTesting.Testing

/-- A mutation for a pool whose workers share the file. -/
structure SharedTask where
  assignment : Assignment
  mutation : Mutation
  isShared : assignment.options.isolation = .lock

namespace SharedTask

variable (t : SharedTask)

/-- The name by which the worker knows the file. -/
def path : Path := t.assignment.source.path

def request : TestRun :=
  ⟨t.assignment.testsFor t.mutation, t.assignment.options.timeout, t.assignment.options.invocation⟩

/-- The text of the mutant, if there is one. -/
def mutant : Except MutantError String :=
  t.mutation.render t.assignment.source t.assignment.options.strict

end SharedTask

/-- How far a worker has got since it took the lock. -/
inductive Phase where
  | entered
  | loaded (mutant original : Bytes)
  | saved (mutant original : Bytes)
  | patched (original : Bytes)
  | testing (original : Bytes)
  | tested (original : Bytes) (result : MutationResult)
  | restored (result : MutationResult)
  | cleaned (result : MutationResult)
  | ended (result : MutationResult)
deriving DecidableEq, Repr

/-- Whether the mutant was written and the original is not yet back. -/
def Phase.isPatched : Phase → Bool
  | patched _ | testing _ | tested _ _ => true
  | _ => false

namespace SharedTask

variable (t : SharedTask)

/-- Renders the mutant and reads the original. -/
def load (fs : FileSystem) : FileSystem × Phase :=
  match t.mutant with
  | .error e => (fs, .ended (notPatched t.mutation (.mutant e)))
  | .ok mutant =>
    match fs.read t.path with
    | .error e => (fs, .ended (notPatched t.mutation (.file e)))
    | .ok original => (fs, .loaded (encoded mutant) original)

/-- Writes the backup. -/
def save (fs : FileSystem) (mutant original : Bytes) : FileSystem × Phase :=
  match fs.write (backupPath t.path) original with
  | .error e => (fs, .ended (notPatched t.mutation (.file e)))
  | .ok fs => (fs, .saved mutant original)

/-- Writes the mutant.  If that fails, the original is put back. -/
def patch (fs : FileSystem) (mutant original : Bytes) : FileSystem × Phase :=
  match fs.write t.path mutant with
  | .error e => (fs, .tested original (failed t.mutation (.file e)))
  | .ok fs => (fs, .patched original)

/-- Removes the compiled files, before the tests are run. -/
def prepare (fs : FileSystem) (original : Bytes) : FileSystem × Phase :=
  let cleared := invalidateCompiled fs t.path
  (cleared.files,
    match cleared.failure with
    | some e => .tested original (failed t.mutation (.file e))
    | none => .testing original)

/-- Puts the original back. -/
def restore (fs : FileSystem) (original : Bytes) (result : MutationResult) : FileSystem × Phase :=
  match fs.write t.path original with
  | .error e => (fs, .ended (failed t.mutation (.file e)))
  | .ok fs => (fs, .restored result)

/-- Removes the backup. -/
def dropBackup (fs : FileSystem) (result : MutationResult) : FileSystem × Phase :=
  match Patch.discard fs (backupPath t.path) with
  | .error e => (fs, .ended (failed t.mutation (.file e)))
  | .ok fs => (fs, .cleaned result)

/-- Removes the compiled files of the mutant. -/
def tidy (fs : FileSystem) (result : MutationResult) : FileSystem × Phase :=
  let cleared := invalidateCompiled fs t.path
  (cleared.files,
    match cleared.failure with
    | some e => .ended (failed t.mutation (.file e))
    | none => .ended result)

/-- The next step of a worker.  If its tests are running, they end with the given outcome. -/
def advance (outcome : Except RunFailure Nat) (fs : FileSystem) : Phase → FileSystem × Phase
  | .entered => t.load fs
  | .loaded mutant original => t.save fs mutant original
  | .saved mutant original => t.patch fs mutant original
  | .patched original => t.prepare fs original
  | .testing original => (fs, .tested original (judged t.mutation outcome))
  | .tested original result => t.restore fs original result
  | .restored result => t.dropBackup fs result
  | .cleaned result => t.tidy fs result
  | .ended result => (fs, .ended result)

/-- The next step of a worker that has the tests run by its own runner. -/
def work (state : FileSystem × Phase) : FileSystem × Phase :=
  t.advance (t.assignment.runner state.1 t.request) state.1 state.2

theorem iterate_work_ended (count : Nat) (fs : FileSystem) (result : MutationResult) :
    t.work^[count] (fs, .ended result) = (fs, .ended result) :=
  Function.iterate_fixed rfl count

/-- How a worker that nobody disturbs puts its file back. -/
theorem iterate_work_tested (fs : FileSystem) (original : Bytes) (result : MutationResult) :
    t.work^[3] (fs, .tested original result) =
      ((Patch.leave fs ⟨t.path, original⟩).files,
        .ended (match (Patch.leave fs ⟨t.path, original⟩).failure with
          | none => result
          | some e => failed t.mutation (.file e))) := by
  rw [Function.iterate_succ_apply, work, advance, restore, Patch.leave]
  cases fs.write t.path original with
  | error e => exact t.iterate_work_ended 2 fs _
  | ok written =>
      dsimp only
      rw [Function.iterate_succ_apply, work, advance, dropBackup]
      cases Patch.discard written (backupPath t.path) with
      | error e => exact t.iterate_work_ended 1 written _
      | ok discarded =>
          dsimp only
          rw [Function.iterate_succ_apply, work, advance, tidy]
          cases (invalidateCompiled discarded t.path).failure <;> rfl

/-- A file that could be read can be written after its backup. -/
theorem exists_write_of_write_backup {fs saved : FileSystem} {path : Path} {original : Bytes}
    (hread : fs.read path = .ok original)
    (hsaved : fs.write (backupPath path) original = .ok saved) (mutant : Bytes) :
    ∃ patched, saved.write path mutant = .ok patched := by
  obtain ⟨file, hlocate⟩ := FileSystem.read_eq_ok_iff.mp hread
  obtain ⟨_, _, _, htrail⟩ := Store.locate_eq_ok_iff.mp hlocate
  have hfile := FileSystem.get?_of_write_same hsaved (htrail.get?_eq (by simp))
  have hkept := (FileSystem.KeepsWays.refl (· = path) fs).write hsaved
  exact ⟨_, FileSystem.write_of_locate (hkept.locate rfl hlocate hfile) (by simp)⟩

/-- The steps of a worker that nobody disturbs carry out its mutant. -/
theorem iterate_work_entered (w : Workshop) :
    t.work^[8] (w.files, .entered) =
      ((runMutant t.assignment w t.mutation ⟨t.path, t.request⟩).1.files,
        .ended (runMutant t.assignment w t.mutation ⟨t.path, t.request⟩).2) := by
  rw [Function.iterate_succ_apply, work, advance, load, runMutant, Patch.enter, mutant]
  cases t.mutation.render t.assignment.source t.assignment.options.strict with
  | error e => exact t.iterate_work_ended 7 w.files _
  | ok mutant =>
      cases hread : w.files.read t.path with
      | error e => exact t.iterate_work_ended 7 w.files _
      | ok original =>
          dsimp only
          rw [Function.iterate_succ_apply, work, advance, save]
          cases hsaved : w.files.write (backupPath t.path) original with
          | error e =>
              simp only [mapError_ok, mapError_error, bind, Except.bind, hsaved]
              exact t.iterate_work_ended 6 w.files _
          | ok saved =>
              obtain ⟨patched, hpatched⟩ :=
                exists_write_of_write_backup hread hsaved (encoded mutant)
              simp only [mapError_ok, bind, Except.bind, pure, Except.pure, hsaved, hpatched]
              rw [Function.iterate_succ_apply, work, advance, patch, hpatched]
              dsimp only
              rw [Function.iterate_succ_apply, work, advance, prepare]
              cases (invalidateCompiled patched t.path).failure with
              | some e =>
                  dsimp only
                  rw [Function.iterate_succ_apply', iterate_work_tested]
                  cases (Patch.leave (invalidateCompiled patched t.path).files
                    ⟨t.path, original⟩).failure <;> rfl
              | none =>
                  dsimp only
                  rw [Function.iterate_succ_apply, work, advance]
                  refine (t.iterate_work_tested _ original _).trans ?_
                  cases (Patch.leave (invalidateCompiled patched t.path).files
                    ⟨t.path, original⟩).failure <;> simp only

theorem execute_eq_runMutant (w : Workshop) (slot place : Nat) :
    execute t.assignment w slot ⟨place, t.mutation⟩ =
      ((runMutant t.assignment w t.mutation ⟨t.path, t.request⟩).1,
        ⟨place, (runMutant t.assignment w t.mutation ⟨t.path, t.request⟩).2⟩) := by
  simp only [execute, placementOf, t.isShared, path, request]

/-- In a pool whose workers share the file, a job is the steps of its worker. -/
theorem iterate_work_execute (w : Workshop) (slot place : Nat) :
    t.work^[8] (w.files, .entered) =
      ((execute t.assignment w slot ⟨place, t.mutation⟩).1.files,
        .ended (execute t.assignment w slot ⟨place, t.mutation⟩).2.result) := by
  rw [iterate_work_entered, execute_eq_runMutant]

end SharedTask

end MutationTesting.Run
