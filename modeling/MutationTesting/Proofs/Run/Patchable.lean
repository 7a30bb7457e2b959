import Mathlib.Data.List.Forall2
import MutationTesting.Proofs.Run.PatchedBlock
import MutationTesting.Run.Pool

/-!
# Files that can be patched again and again

Where a file can be written, saved and restored without hindrance, a mutant gets what its tests say
and leaves the file as it found it.  So do any number of mutants, one after the other.  If the tests
look at nothing but the file itself, where it is does not matter.
-/

namespace MutationTesting.Run

open MutationTesting.Files
open MutationTesting.Testing

/-- The directory that tests run in.  Without a name it is the current one. -/
def workingDirectory (fs : FileSystem) (request : TestRun) : Path :=
  match request.options.directory with
  | none | some "" => fs.absolute fs.directory
  | some directory => fs.absolute directory

namespace Assignment

/-- What tests see of the source file, at its place below the directory that they run in. -/
def seenSource (a : Assignment) (fs : FileSystem) (request : TestRun) : Except FileError Bytes :=
  fs.read (Path.join (workingDirectory fs request)
    (Path.relative (fs.absolute a.source.path) (a.project fs)))

/-- What a mutation comes to if its mutant is written whenever there is one, and the tests answer
to what they see of it. -/
def expectedResult (a : Assignment) (answer : Except FileError Bytes → Except RunFailure Nat)
    (m : Mutation) : MutationResult :=
  match m.render a.source a.options.strict with
  | .error e => notPatched m (.mutant e)
  | .ok mutant => judged m (answer (.ok (encoded mutant)))

end Assignment

/-- A path at which a file can be patched again and again.  What is said of the files when the file
has some content stays true, with the new content, whatever is done at the path. -/
structure Patchable (path : Path) (Holds : FileSystem → Bytes → Prop) : Prop where
  read : ∀ fs content, Holds fs content → fs.read path = .ok content
  write : ∀ fs content written, Holds fs content →
    ∃ next, fs.write path written = .ok next ∧ Holds next written
  save : ∀ fs content saved, Holds fs content →
    ∃ next, fs.write (backupPath path) saved = .ok next ∧ Holds next content
  drop : ∀ fs content, Holds fs content →
    ∃ next, Patch.discard fs (backupPath path) = .ok next ∧ Holds next content
  clear : ∀ fs content, Holds fs content →
    (invalidateCompiled fs path).failure = none ∧ Holds (invalidateCompiled fs path).files content

namespace Patchable

variable {a : Assignment} {path : Path} {Holds : FileSystem → Bytes → Prop}
variable (hpatchable : Patchable path Holds)

include hpatchable

theorem exists_enter {fs : FileSystem} {m : Mutation} {source : SourceFile} {strict : Bool}
    {mutant : String} {original : Bytes} (hmutant : m.render source strict = .ok mutant)
    (hholds : Holds fs original) :
    ∃ patched, Patch.enter fs m source path strict = .ok (patched, ⟨path, original⟩) ∧
      Holds patched (encoded mutant) := by
  obtain ⟨saved, hsave, hsaved⟩ := hpatchable.save fs original original hholds
  obtain ⟨patched, hwrite, hpatched⟩ := hpatchable.write saved original (encoded mutant) hsaved
  refine ⟨patched, Patch.enter_eq_ok_iff.mpr ?_, hpatched⟩
  exact ⟨mutant, original, saved, hmutant, hpatchable.read fs original hholds, hsave, hwrite, rfl⟩

theorem leave {fs : FileSystem} {content : Bytes} (original : Bytes) (hholds : Holds fs content) :
    (Patch.leave fs ⟨path, original⟩).failure = none ∧
      Holds (Patch.leave fs ⟨path, original⟩).files original := by
  obtain ⟨restored, hwrite, hrestored⟩ := hpatchable.write fs content original hholds
  obtain ⟨cleaned, hdrop, hcleaned⟩ := hpatchable.drop restored original hrestored
  have hleave : Patch.leave fs ⟨path, original⟩ =
      ⟨(invalidateCompiled cleaned path).files, (invalidateCompiled cleaned path).failure⟩ := by
    rw [Patch.leave, hwrite]
    simp only [hdrop]
  rw [hleave]
  dsimp only
  exact hpatchable.clear cleaned original hcleaned

/-- A mutation gets what the tests answer to its mutant, and the file has its content again. -/
theorem runMutant {answer : Except FileError Bytes → Except RunFailure Nat}
    (hrunner : ∀ fs request, a.runner fs request = answer (a.seenSource fs request))
    {w : Workshop} {original : Bytes} (m : Mutation) (request : TestRun)
    (hseen : ∀ fs content, Holds fs content → a.seenSource fs request = .ok content)
    (hholds : Holds w.files original) :
    Holds (runMutant a w m ⟨path, request⟩).1.files original ∧
      (runMutant a w m ⟨path, request⟩).2 = a.expectedResult answer m := by
  rw [Run.runMutant, Assignment.expectedResult]
  cases hmutant : m.render a.source a.options.strict with
  | error e =>
      rw [Patch.enter, hmutant]
      exact ⟨hholds, rfl⟩
  | ok mutant =>
      obtain ⟨patched, henter, hpatched⟩ := hpatchable.exists_enter hmutant hholds
      obtain ⟨hclear, hcleared⟩ := hpatchable.clear patched _ hpatched
      obtain ⟨hleave, hleft⟩ := hpatchable.leave original hcleared
      dsimp only
      rw [henter]
      dsimp only
      rw [hclear]
      dsimp only
      rw [hleave, hrunner, hseen _ _ hcleared]
      exact ⟨hleft, rfl⟩

end Patchable

namespace Coordinator

variable {State Job Result : Type} {execute : State → Nat → Job → State × Result}

/-- With a single slot the jobs are carried out one after the other, and the results come in their
order.  What each job keeps, the next one finds. -/
theorem exists_results_run_single (property : State → Prop) (gives : Job → Result → Prop)
    (slot : Nat) (choose : Coordinator Job Result → Nat) (done : List Result) {jobs : List Job}
    {state : State}
    (hexecute : ∀ state, ∀ job ∈ jobs, property state →
      property (execute state slot job).1 ∧ gives job (execute state slot job).2)
    (hstate : property state) :
    ∃ results, (run execute choose jobs.length state ⟨jobs, [], [slot], done⟩).2.results =
      done ++ results ∧ List.Forall₂ gives jobs results := by
  induction jobs generalizing state done with
  | nil => exact ⟨[], (List.append_nil done).symm, .nil⟩
  | cons job rest ih =>
      have hlaunch : (⟨job :: rest, [], [slot], done⟩ : Coordinator Job Result).launch =
          ⟨rest, [(slot, job)], [], done⟩ := by
        cases rest <;> rfl
      have hnext : ∀ choice,
          (⟨rest, [(slot, job)], [], done⟩ : Coordinator Job Result).next? choice =
            some (slot, job) := by
        intro choice
        cases choice <;> rfl
      have hcomplete : ∀ result,
          (⟨rest, [(slot, job)], [], done⟩ : Coordinator Job Result).complete slot result =
            ⟨rest, [], [slot], done ++ [result]⟩ := by
        intro result
        simp [complete]
      obtain ⟨hkept, hgives⟩ := hexecute state job List.mem_cons_self hstate
      obtain ⟨results, hresults, hrest⟩ := ih (done ++ [(execute state slot job).2])
        (fun state other hother => hexecute state other (List.mem_cons_of_mem job hother)) hkept
      refine ⟨(execute state slot job).2 :: results, ?_, .cons hgives hrest⟩
      rw [List.length_cons, run, hlaunch, hnext]
      dsimp only
      rw [hcomplete, hresults, List.append_assoc, List.singleton_append]

theorem forall₂_runAll_single (property : State → Prop) (gives : Job → Result → Prop)
    (choose : Coordinator Job Result → Nat) {jobs : List Job} {state : State}
    (hexecute : ∀ state, ∀ job ∈ jobs, property state →
      property (execute state 0 job).1 ∧ gives job (execute state 0 job).2)
    (hstate : property state) :
    List.Forall₂ gives jobs (runAll execute choose 1 state jobs).2 := by
  obtain ⟨results, hresults, hgives⟩ :=
    exists_results_run_single property gives 0 choose [] hexecute hstate
  have hall : (runAll execute choose 1 state jobs).2 = results := hresults
  rwa [hall]

end Coordinator

end MutationTesting.Run
