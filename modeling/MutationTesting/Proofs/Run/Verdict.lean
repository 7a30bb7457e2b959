import MutationTesting.Proofs.Run.Completion
import MutationTesting.Proofs.Run.Patchable
import MutationTesting.Proofs.Run.Sandboxes

/-!
# What a worker says of a mutant

A worker that always meets the same hindrances comes to a verdict that depends on nothing but the
mutant, these hindrances and the outcome of its tests.  So the result tells what went wrong: whether
there is a mutant at all, whether a file was in the way, and how the tests ended.
-/

namespace MutationTesting.Run

open MutationTesting.Files
open MutationTesting.Testing

/-- What stands in the way of tests, in the order in which a worker comes upon it. -/
structure Hindrances where
  reading : Option FileError := none
  saving : Option FileError := none
  clearing : Option FileError := none
deriving DecidableEq, Repr

namespace Hindrances

/-- What a worker comes upon first. -/
def first (h : Hindrances) : Option FileError := h.reading.or (h.saving.or h.clearing)

/-- Whether the mutant gets into the file. -/
def IsOpen (h : Hindrances) : Prop := h.reading = none ∧ h.saving = none

variable {h : Hindrances}

theorem first_of_reading {e : FileError} (hreading : h.reading = some e) : h.first = some e := by
  rw [first, hreading, Option.some_or]

theorem first_of_saving {e : FileError} (hreading : h.reading = none)
    (hsaving : h.saving = some e) : h.first = some e := by
  rw [first, hreading, hsaving, Option.none_or, Option.some_or]

theorem IsOpen.first_eq (hopen : h.IsOpen) : h.first = h.clearing := by
  rw [first, hopen.1, hopen.2, Option.none_or, Option.none_or]

theorem first_eq_none_iff : h.first = none ↔ h.IsOpen ∧ h.clearing = none := by
  rw [first, Option.or_eq_none_iff, Option.or_eq_none_iff, IsOpen, and_assoc]

end Hindrances

/-- A path at which a file can be patched again and again, as far as the hindrances go. -/
structure Workable (h : Hindrances) (path : Path) (Holds : FileSystem → Bytes → Prop) : Prop where
  unread : ∀ e, h.reading = some e → ∀ fs content, Holds fs content → fs.read path = .error e
  read : h.reading = none → ∀ fs content, Holds fs content → fs.read path = .ok content
  unsaved : ∀ e, h.reading = none → h.saving = some e → ∀ fs content saved, Holds fs content →
    fs.write (backupPath path) saved = .error e
  save : h.IsOpen → ∀ fs content saved, Holds fs content →
    ∃ next, fs.write (backupPath path) saved = .ok next ∧ Holds next content
  write : h.IsOpen → ∀ fs content written, Holds fs content →
    ∃ next, fs.write path written = .ok next ∧ Holds next written
  drop : h.IsOpen → ∀ fs content, Holds fs content →
    ∃ next, Patch.discard fs (backupPath path) = .ok next ∧ Holds next content
  clear : h.IsOpen → ∀ fs content, Holds fs content →
    (invalidateCompiled fs path).failure = h.clearing ∧
      Holds (invalidateCompiled fs path).files content

theorem Patchable.workable {path : Path} {Holds : FileSystem → Bytes → Prop}
    (hpatchable : Patchable path Holds) : Workable {} path Holds where
  unread := fun e hreading => by cases hreading
  read := fun _ => hpatchable.read
  unsaved := fun e _ hsaving => by cases hsaving
  save := fun _ => hpatchable.save
  write := fun _ => hpatchable.write
  drop := fun _ => hpatchable.drop
  clear := fun _ => hpatchable.clear

theorem Workable.patchable {h : Hindrances} {path : Path} {Holds : FileSystem → Bytes → Prop}
    (hwork : Workable h path Holds) (hfirst : h.first = none) : Patchable path Holds := by
  obtain ⟨hopen, hclearing⟩ := Hindrances.first_eq_none_iff.mp hfirst
  refine ⟨hwork.read hopen.1, hwork.write hopen, hwork.save hopen, hwork.drop hopen, ?_⟩
  rw [← hclearing]
  exact hwork.clear hopen

/-- What goes wrong with the files when a mutation is put in place and the compiled files are
cleared.  A mutation without a mutant does not get to the files. -/
def Patch.obstacle (fs : FileSystem) (m : Mutation) (source : SourceFile) (target : Path)
    (strict : Bool) : Option FileError :=
  match Patch.enter fs m source target strict with
  | .error (.mutant _) => none
  | .error (.file e) => some e
  | .ok (inside, patch) => (invalidateCompiled inside patch.target).failure

theorem Workable.obstacle_eq {h : Hindrances} {path : Path} {Holds : FileSystem → Bytes → Prop}
    (hwork : Workable h path Holds) {fs : FileSystem} {original : Bytes}
    (hholds : Holds fs original) {m : Mutation} {source : SourceFile} {strict : Bool}
    {mutant : String} (hmutant : m.render source strict = .ok mutant) :
    Patch.obstacle fs m source path strict = h.first := by
  rw [Patch.obstacle, Patch.enter, hmutant]
  cases hreading : h.reading with
  | some e =>
      rw [hwork.unread e hreading fs original hholds]
      exact (Hindrances.first_of_reading hreading).symm
  | none =>
      rw [hwork.read hreading fs original hholds]
      cases hsaving : h.saving with
      | some e =>
          simp only [mapError_ok, bind, Except.bind,
            hwork.unsaved e hreading hsaving fs original original hholds]
          exact (Hindrances.first_of_saving hreading hsaving).symm
      | none =>
          have hopen : h.IsOpen := ⟨hreading, hsaving⟩
          obtain ⟨saved, hsave, hsaved⟩ := hwork.save hopen fs original original hholds
          obtain ⟨patched, hwrite, hpatched⟩ :=
            hwork.write hopen saved original (encoded mutant) hsaved
          simp only [mapError_ok, bind, Except.bind, pure, Except.pure, hsave, hwrite]
          exact (hwork.clear hopen patched _ hpatched).1.trans hopen.first_eq.symm

/-- The outcomes of the calls to the runner for a mutant, and its result.  The runner is called at
most once, and has answered to the mutant. -/
inductive Verdict (t : SharedTask) (h : Hindrances)
    (Heard : String → Except RunFailure Nat → Prop) :
    List (Except RunFailure Nat) → MutationResult → Prop
  | unrendered {e : MutantError} (hmutant : t.mutant = .error e) :
      Verdict t h Heard [] (notPatched t.mutation (.mutant e))
  | hindered {mutant : String} {e : FileError} (hmutant : t.mutant = .ok mutant)
      (hfirst : h.first = some e) : Verdict t h Heard [] (failed t.mutation (.file e))
  | tested {mutant : String} {outcome : Except RunFailure Nat} (hmutant : t.mutant = .ok mutant)
      (hfirst : h.first = none) (hheard : Heard mutant outcome) :
      Verdict t h Heard [outcome] (judged t.mutation outcome)

/-- Whether a mutation is refused: it does not fit the file, or its mutant is no program. -/
def isRefusal : MutantError → Bool
  | .mismatch _ | .invalid _ => true
  | .search _ => false

/-- A result tells what happened: whether the mutation was refused, how its tests ended, or that
something went wrong.  Only tests that give a number of failures leave nothing to explain. -/
structure Classified (rendered : Except MutantError String) (obstacle : Option FileError)
    (calls : List (Except RunFailure Nat)) (result : MutationResult) : Prop where
  invalid_iff : result.classification = .invalid ↔ ∃ e, rendered = .error e ∧ isRefusal e = true
  timeout_iff : result.classification = .timeout ↔ ∃ limit, calls = [.error (.timeout limit)]
  error_iff : result.classification = .error ↔
    (∃ e, rendered = .error e ∧ isRefusal e = false) ∨
      (∃ mutant e, rendered = .ok mutant ∧ obstacle = some e) ∨
      ∃ failure, calls = [.error failure] ∧ ∀ limit, failure ≠ .timeout limit
  killed_iff : result.classification = .killed ↔ ∃ failures, calls = [.ok failures] ∧ 0 < failures
  survived_iff : result.classification = .survived ↔ calls = [.ok 0]
  known : result.classification ∈ Classification.all
  error_eq_none_iff : result.error = none ↔
    result.classification = .killed ∨ result.classification = .survived
  called_iff : calls ≠ [] ↔ (∃ mutant, rendered = .ok mutant) ∧ obstacle = none
  called_once : calls.length ≤ 1

namespace Verdict

variable {t : SharedTask} {h : Hindrances} {Heard : String → Except RunFailure Nat → Prop}
variable {calls : List (Except RunFailure Nat)} {result : MutationResult}

theorem mutation_eq (hverdict : Verdict t h Heard calls result) : result.mutation = t.mutation := by
  cases hverdict with
  | unrendered _ => exact mutation_notPatched _ _
  | hindered _ _ => rfl
  | tested _ _ _ => exact mutation_judged _ _

theorem classified {obstacle : Option FileError} (hverdict : Verdict t h Heard calls result)
    (hobstacle : ∀ mutant, t.mutant = .ok mutant → obstacle = h.first) :
    Classified t.mutant obstacle calls result := by
  cases hverdict with
  | @unrendered e hmutant =>
      rw [hmutant]
      cases e <;> constructor <;> simp [notPatched, failed, isRefusal, Classification.all]
  | @hindered mutant e hmutant hfirst =>
      obtain rfl := (hobstacle mutant hmutant).trans hfirst
      rw [hmutant]
      constructor <;> simp [failed, Classification.all]
  | @tested mutant outcome hmutant hfirst _ =>
      obtain rfl := (hobstacle mutant hmutant).trans hfirst
      rw [hmutant]
      obtain failure | failures := outcome
      · cases failure <;> constructor <;> simp [judged, failed, Classification.all]
      · have hsome : failures = 0 ∨ 0 < failures := Nat.eq_zero_or_pos failures
        rcases hsome with rfl | hpos
        · constructor <;> simp [judged, Classification.ofFailures, Classification.all]
        · constructor <;>
            simp [judged, Classification.ofFailures, hpos, hpos.ne', Classification.all]

end Verdict

/-- The call to the runner that a step comes with. -/
def Phase.calls (outcome : Except RunFailure Nat) : Phase → List (Except RunFailure Nat)
  | .testing _ => [outcome]
  | .entered | .loaded _ _ | .saved _ _ | .patched _ => []
  | .tested _ _ | .restored _ | .cleaned _ | .ended _ => []

/-- What a worker in some phase knows, what its file has to hold, and which calls were made. -/
def Phase.Tells (t : SharedTask) (h : Hindrances) (Heard : String → Except RunFailure Nat → Prop)
    (original content : Bytes) (calls : List (Except RunFailure Nat)) : Phase → Prop
  | .entered => content = original ∧ calls = []
  | .loaded mutant kept =>
    content = original ∧ kept = original ∧ calls = [] ∧ t.Renders mutant ∧ h.reading = none
  | .saved mutant kept =>
    content = original ∧ kept = original ∧ calls = [] ∧ t.Renders mutant ∧ h.IsOpen
  | .patched kept => kept = original ∧ calls = [] ∧ t.Renders content ∧ h.IsOpen
  | .testing kept => kept = original ∧ calls = [] ∧ t.Renders content ∧ h.IsOpen ∧ h.clearing = none
  | .tested kept result =>
    kept = original ∧ (∃ mutant, t.Renders mutant) ∧ Verdict t h Heard calls result ∧ h.IsOpen
  | .restored result | .cleaned result =>
    content = original ∧ (∃ mutant, t.Renders mutant) ∧ Verdict t h Heard calls result ∧ h.IsOpen
  | .ended result => content = original ∧ Verdict t h Heard calls result

/-- A worker without a mutant writes no file. -/
theorem Phase.Tells.files_advance {t : SharedTask} {h : Hindrances}
    {Heard : String → Except RunFailure Nat → Prop} {original content : Bytes}
    {calls : List (Except RunFailure Nat)} {phase : Phase}
    (htells : phase.Tells t h Heard original content calls) {e : MutantError}
    (hmutant : t.mutant = .error e) (outcome : Except RunFailure Nat) (fs : FileSystem) :
    (t.advance outcome fs phase).1 = fs := by
  have hnone : ∀ mutant, ¬ t.Renders mutant := by
    rintro mutant ⟨text, htext, -⟩
    rw [hmutant] at htext
    cases htext
  cases phase with
  | entered => rw [SharedTask.advance, SharedTask.load, hmutant]
  | loaded _ _ => exact absurd htells.2.2.2.1 (hnone _)
  | saved _ _ => exact absurd htells.2.2.2.1 (hnone _)
  | patched _ => exact absurd htells.2.2.1 (hnone _)
  | testing _ => exact absurd htells.2.2.1 (hnone _)
  | tested _ _ => exact absurd htells.2.1.choose_spec (hnone _)
  | restored _ => exact absurd htells.2.1.choose_spec (hnone _)
  | cleaned _ => exact absurd htells.2.1.choose_spec (hnone _)
  | ended _ => rfl

namespace Workable

variable {t : SharedTask} {h : Hindrances} {Holds : FileSystem → Bytes → Prop}
variable {Heard : String → Except RunFailure Nat → Prop} {original content : Bytes}
variable {calls : List (Except RunFailure Nat)} {fs : FileSystem}

variable (t h Holds Heard original calls) in
/-- A file system and a phase in which a worker knows what it should. -/
def Told (state : FileSystem × Phase) : Prop :=
  ∃ content, Holds state.1 content ∧ state.2.Tells t h Heard original content calls

variable (hwork : Workable h t.path Holds)

include hwork

theorem told_load (hholds : Holds fs original) :
    Told t h Holds Heard original [] (t.load fs) := by
  rw [SharedTask.load]
  cases hmutant : t.mutant with
  | error e => exact ⟨original, hholds, rfl, .unrendered hmutant⟩
  | ok mutant =>
      dsimp only
      cases hreading : h.reading with
      | some e =>
          rw [hwork.unread e hreading fs original hholds]
          exact ⟨original, hholds, rfl, .hindered hmutant (Hindrances.first_of_reading hreading)⟩
      | none =>
          rw [hwork.read hreading fs original hholds]
          exact ⟨original, hholds, rfl, rfl, rfl, ⟨mutant, hmutant, rfl⟩, hreading⟩

theorem told_save {mutant : Bytes} (hreading : h.reading = none) (hmutant : t.Renders mutant)
    (hholds : Holds fs original) :
    Told t h Holds Heard original [] (t.save fs mutant original) := by
  rw [SharedTask.save]
  cases hsaving : h.saving with
  | some e =>
      obtain ⟨text, htext, -⟩ := hmutant
      rw [hwork.unsaved e hreading hsaving fs original original hholds]
      exact ⟨original, hholds, rfl,
        .hindered htext (Hindrances.first_of_saving hreading hsaving)⟩
  | none =>
      obtain ⟨next, hwrite, hnext⟩ :=
        hwork.save ⟨hreading, hsaving⟩ fs original original hholds
      rw [hwrite]
      exact ⟨original, hnext, rfl, rfl, rfl, hmutant, hreading, hsaving⟩

variable (hopen : h.IsOpen)

include hopen

theorem told_patch {mutant : Bytes} (hmutant : t.Renders mutant) (hholds : Holds fs original) :
    Told t h Holds Heard original [] (t.patch fs mutant original) := by
  obtain ⟨next, hwrite, hnext⟩ := hwork.write hopen fs original mutant hholds
  rw [SharedTask.patch, hwrite]
  exact ⟨mutant, hnext, rfl, rfl, hmutant, hopen⟩

theorem told_prepare (hmutant : t.Renders content) (hholds : Holds fs content) :
    Told t h Holds Heard original [] (t.prepare fs original) := by
  obtain ⟨hfailure, hcleared⟩ := hwork.clear hopen fs content hholds
  rw [SharedTask.prepare]
  generalize invalidateCompiled fs t.path = cleared at hfailure hcleared ⊢
  rw [hfailure]
  cases hclearing : h.clearing with
  | some e =>
      obtain ⟨text, htext, -⟩ := id hmutant
      exact ⟨content, hcleared, rfl, ⟨content, hmutant⟩,
        .hindered htext (hopen.first_eq.trans hclearing), hopen⟩
  | none => exact ⟨content, hcleared, rfl, rfl, hmutant, hopen, hclearing⟩

omit hwork in
theorem told_tested (hclearing : h.clearing = none) (hmutant : t.Renders content)
    (hholds : Holds fs content) (outcome : Except RunFailure Nat)
    (hheard : ∀ mutant, t.mutant = .ok mutant → content = encoded mutant → Heard mutant outcome) :
    Told t h Holds Heard original [outcome]
      (fs, .tested original (judged t.mutation outcome)) := by
  obtain ⟨text, htext, rfl⟩ := hmutant
  exact ⟨_, hholds, rfl, ⟨_, text, htext, rfl⟩,
    .tested htext (hopen.first_eq.trans hclearing) (hheard text htext rfl), hopen⟩

section Leaving

variable {result : MutationResult} (hmutant : ∃ mutant, t.Renders mutant)
variable (hverdict : Verdict t h Heard calls result)

include hmutant hverdict

theorem told_restore (hholds : Holds fs content) :
    Told t h Holds Heard original calls (t.restore fs original result) := by
  obtain ⟨next, hwrite, hnext⟩ := hwork.write hopen fs content original hholds
  rw [SharedTask.restore, hwrite]
  exact ⟨original, hnext, rfl, hmutant, hverdict, hopen⟩

theorem told_dropBackup (hholds : Holds fs original) :
    Told t h Holds Heard original calls (t.dropBackup fs result) := by
  obtain ⟨next, hdiscard, hnext⟩ := hwork.drop hopen fs original hholds
  rw [SharedTask.dropBackup, hdiscard]
  exact ⟨original, hnext, rfl, hmutant, hverdict, hopen⟩

/-- What was in the way before the tests is in the way after them, too. -/
theorem told_tidy (hholds : Holds fs original) :
    Told t h Holds Heard original calls (t.tidy fs result) := by
  obtain ⟨hfailure, hcleared⟩ := hwork.clear hopen fs original hholds
  rw [SharedTask.tidy]
  generalize invalidateCompiled fs t.path = cleared at hfailure hcleared ⊢
  rw [hfailure]
  cases hclearing : h.clearing with
  | none => exact ⟨original, hcleared, rfl, hverdict⟩
  | some e =>
      have hfirst := hopen.first_eq.trans hclearing
      refine ⟨original, hcleared, rfl, ?_⟩
      cases hverdict with
      | unrendered hnone =>
          obtain ⟨_, text, htext, -⟩ := hmutant
          rw [hnone] at htext
          cases htext
      | hindered hsome _ => exact .hindered hsome hfirst
      | tested _ hnone _ =>
          rw [hfirst] at hnone
          cases hnone

end Leaving

omit hopen

/-- No step makes a worker forget what it should know. -/
theorem told_advance {phase : Phase} (htold : Told t h Holds Heard original calls (fs, phase))
    {outcome : Except RunFailure Nat}
    (hheard : ∀ kept mutant, phase = .testing kept → t.mutant = .ok mutant →
      fs.read t.path = .ok (encoded mutant) → Heard mutant outcome) :
    Told t h Holds Heard original (calls ++ phase.calls outcome)
      (t.advance outcome fs phase) := by
  obtain ⟨content, hholds, htells⟩ := htold
  cases phase with
  | entered =>
      obtain ⟨rfl, rfl⟩ := htells
      rw [SharedTask.advance]
      exact hwork.told_load hholds
  | loaded mutant kept =>
      obtain ⟨rfl, rfl, rfl, hmutant, hreading⟩ := htells
      rw [SharedTask.advance]
      exact hwork.told_save hreading hmutant hholds
  | saved mutant kept =>
      obtain ⟨rfl, rfl, rfl, hmutant, hopen⟩ := htells
      rw [SharedTask.advance]
      exact hwork.told_patch hopen hmutant hholds
  | patched kept =>
      obtain ⟨rfl, rfl, hmutant, hopen⟩ := htells
      rw [SharedTask.advance]
      exact hwork.told_prepare hopen hmutant hholds
  | testing kept =>
      obtain ⟨rfl, rfl, hmutant, hopen, hclearing⟩ := htells
      rw [SharedTask.advance]
      refine told_tested hopen hclearing hmutant hholds outcome fun mutant hrendered hsame => ?_
      refine hheard _ mutant rfl hrendered ?_
      rw [← hsame]
      exact hwork.read hopen.1 fs content hholds
  | tested kept result =>
      obtain ⟨rfl, hmutant, hverdict, hopen⟩ := htells
      rw [SharedTask.advance, Phase.calls, List.append_nil]
      exact hwork.told_restore hopen hmutant hverdict hholds
  | restored result =>
      obtain ⟨rfl, hmutant, hverdict, hopen⟩ := htells
      rw [SharedTask.advance, Phase.calls, List.append_nil]
      exact hwork.told_dropBackup hopen hmutant hverdict hholds
  | cleaned result =>
      obtain ⟨rfl, hmutant, hverdict, hopen⟩ := htells
      rw [SharedTask.advance, Phase.calls, List.append_nil]
      exact hwork.told_tidy hopen hmutant hverdict hholds
  | ended result =>
      rw [SharedTask.advance, Phase.calls, List.append_nil]
      exact ⟨content, hholds, htells⟩

end Workable

end MutationTesting.Run
