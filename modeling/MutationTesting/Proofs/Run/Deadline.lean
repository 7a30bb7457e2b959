import MutationTesting.Proofs.Number.Comparison
import MutationTesting.Proofs.Run.TestSelection
import MutationTesting.Proofs.Settings.Loading

/-!
# The deadline of a run

A configuration is refused for a limit that is out of its range.  It is accepted if every limit is in
its range, but also if a limit is an undefined number, which is neither in a range nor out of it.

Tests are stopped at the deadline that the configuration gives.  Every configuration that is accepted
has a positive one, unless it is an undefined number.
-/

namespace MutationTesting.Settings

/-! ## Which configurations are accepted -/

open MutationTesting.Optimizer (Level)
open MutationTesting.Run (Isolation)

/-- Whether the values of all settings pass the checks. -/
structure PassesChecks (value : String → Value) : Prop where
  concurrency : ∃ x, value "concurrency" = .amount x ∧ (x.IsAtLeast 1 ∨ x = .real .undefined)
  timeout : ∃ x, value "timeout" = .amount x ∧ (x.IsAbove 0 ∨ x = .real .undefined)
  level : ∃ level : Level, value "optimize_level" = .text level.name
  isolation : ∃ isolation : Isolation, value "isolation" = .text isolation.name
  maxMutations : value "max_mutations" = .absent ∨
    ∃ x, value "max_mutations" = .amount x ∧ (x.IsAtLeast 0 ∨ x = .real .undefined)

namespace RunConfig

variable {v : Value} {processors : Option Int} {given : Entries} {c : RunConfig}

theorem exists_checkedIsolation_iff :
    (∃ isolation, checkedIsolation v = .ok isolation) ↔
      ∃ isolation : Isolation, v = .text isolation.name := by
  constructor
  · rintro ⟨isolation, hchecked⟩
    exact ⟨isolation, eq_of_checkedIsolation hchecked⟩
  · rintro ⟨isolation, rfl⟩
    cases isolation <;> exact ⟨_, rfl⟩

theorem exists_checkedLimit_iff :
    (∃ limit, checkedLimit v = .ok limit) ↔
      v = .absent ∨ ∃ x, v = .amount x ∧ x.isNegative = false := by
  unfold checkedLimit
  split
  next => simp
  next x =>
      split
      next hnegative => simp [hnegative]
      next hpasses => simpa using hpasses
  next habsent hkind =>
      refine iff_of_false (by simp) ?_
      rintro (rfl | ⟨x, rfl, -⟩)
      · exact habsent rfl
      · exact hkind x rfl

theorem isNegative_of_checkedLimit {x : Amount} (hchecked : checkedLimit v = .ok (some x)) :
    x.isNegative = false := by
  unfold checkedLimit at hchecked
  split at hchecked
  · cases hchecked
  · split at hchecked
    next => cases hchecked
    next hpasses =>
        cases hchecked
        simpa using hpasses
  · cases hchecked

theorem find?_eq_none_iff :
    given.find? (fun (name, _) => !fieldNames.contains name) = none ↔ HasSettingNames given := by
  rw [List.find?_eq_none, HasSettingNames]
  simp

/-- The checks pass just when no limit is refused. -/
theorem passesChecks_iff {value : String → Value} :
    PassesChecks value ↔
      (∃ x, value "concurrency" = .amount x ∧ x.isBelowOne = false) ∧
      (∃ x, value "timeout" = .amount x ∧ x.isAtMostZero = false) ∧
      (∃ level : Level, value "optimize_level" = .text level.name) ∧
      (∃ isolation : Isolation, value "isolation" = .text isolation.name) ∧
      (value "max_mutations" = .absent ∨
        ∃ x, value "max_mutations" = .amount x ∧ x.isNegative = false) := by
  simp only [Amount.isBelowOne_eq_false_iff, Amount.isAtMostZero_eq_false_iff,
    Amount.isNegative_eq_false_iff]
  constructor
  · rintro ⟨hconcurrency, htimeout, hlevel, hisolation, hlimit⟩
    exact ⟨hconcurrency, htimeout, hlevel, hisolation, hlimit⟩
  · rintro ⟨hconcurrency, htimeout, hlevel, hisolation, hlimit⟩
    exact ⟨hconcurrency, htimeout, hlevel, hisolation, hlimit⟩

theorem exists_bind_eq_ok_iff_of_forall {α β ε : Type} {first : Except ε α}
    {next : α → Except ε β} {P : Prop} (hnext : ∀ value, (∃ result, next value = .ok result) ↔ P) :
    (∃ result, first >>= next = .ok result) ↔ (∃ value, first = .ok value) ∧ P := by
  rw [exists_bind_eq_ok_iff]
  simp only [hnext, exists_and_right]

/-- A configuration is made just when all names are known and all values pass the checks. -/
theorem exists_ofValues_iff :
    (∃ c, ofValues processors given = .ok c) ↔
      HasSettingNames given ∧ PassesChecks (settingOf processors given) := by
  rw [← find?_eq_none_iff, passesChecks_iff, ofValues]
  cases given.find? fun (name, _) => !fieldNames.contains name with
  | some entry =>
      refine iff_of_false ?_ fun h => Option.some_ne_none entry h.1
      rintro ⟨c, hmade⟩
      cases hmade
  | none =>
      rw [and_iff_right rfl, ← exists_checked_iff, ← exists_checked_iff, ← exists_checkedLevel_iff,
        ← exists_checkedIsolation_iff, ← exists_checkedLimit_iff]
      refine exists_bind_eq_ok_iff_of_forall fun concurrency => ?_
      refine exists_bind_eq_ok_iff_of_forall fun timeout => ?_
      refine exists_bind_eq_ok_iff_of_forall fun level => ?_
      refine exists_bind_eq_ok_iff_of_forall fun isolation => ?_
      exact exists_bind_eq_ok_iff.trans (exists_congr fun limit => and_iff_left ⟨_, rfl⟩)

theorem isNegative_of_ofValues {x : Amount} (hmade : ofValues processors given = .ok c)
    (hlimit : c.maxMutations = some x) : x.isNegative = false := by
  have hchecked := (comesFrom_of_ofValues hmade).maxMutations
  rw [hlimit] at hchecked
  exact isNegative_of_checkedLimit hchecked

end RunConfig

end MutationTesting.Settings

/-! ## Where deadlines go -/

namespace MutationTesting.Run

open MutationTesting.Files
open MutationTesting.Settings (RunConfig HasSettingNames PassesChecks Entries Value)

theorem timeout_of_poolOptions {c : RunConfig} {root : Option Path} {options : PoolOptions}
    (hoptions : poolOptions c root = .ok options) : options.timeout = c.timeout := by
  obtain ⟨invocation, -, hoptions⟩ := bind_eq_ok_iff.mp hoptions
  split at hoptions
  next => cases hoptions
  next workers hworkers =>
      obtain ⟨-, -, isolation, -, rfl⟩ := make_eq_ok_iff.mp (mapError_eq_ok_iff.mp hoptions)
      rfl

/-- Wherever a job takes place, its tests have the deadline of the pool, and nothing is asked before. -/
theorem timeout_of_placementOf {a : Assignment} {w w' : Workshop} {slot : Nat} {tests : List Path}
    {p : Placement} (hplaced : placementOf a w slot tests = .ok (w', p)) :
    p.request.timeout = a.options.timeout ∧ w'.observations = w.observations := by
  cases hisolation : a.options.isolation with
  | lock =>
      rw [placementOf, hisolation] at hplaced
      cases hplaced
      exact ⟨rfl, rfl⟩
  | sandbox =>
      refine ⟨?_, observations_of_placementOf hisolation hplaced⟩
      simp only [placementOf, hisolation] at hplaced
      obtain ⟨⟨made, copy⟩, -, hrest⟩ := bind_eq_ok_iff.mp hplaced
      cases hrest
      rfl

theorem timeout_of_mayAsk {p : Plan} {file : SourceFile} {job : Job} {request : Testing.TestRun}
    (hasks : p.MayAsk file job request) : request.timeout = p.config.timeout := by
  obtain ⟨options, slot, w, o, hoptions, ho, hnew, rfl⟩ := hasks
  rw [← timeout_of_poolOptions hoptions]
  rw [execute] at ho
  dsimp only at ho
  split at ho
  next => exact absurd ho hnew
  next w' placement hplaced =>
      obtain ⟨htimeout, hsame⟩ := timeout_of_placementOf hplaced
      rcases exists_iterate_work_of_mem_observations _ _ _ _ ho with hbefore | ⟨_, hrequest, -⟩
      · exact absurd (hsame ▸ hbefore) hnew
      · rw [hrequest, htimeout]
        rfl

/-- A configuration is accepted just when all names are known and every value passes its check.  Then the
level and the isolation are known, and each limit is in its range unless it is an undefined number.  All
tests of a run have the deadline of its configuration, which is a positive number unless it is undefined
or infinite. -/
theorem accepted_limits_in_range_iff (processors : Option Int) (given : Entries) :
    ((∃ c, RunConfig.ofValues processors given = .ok c) ↔
      HasSettingNames given ∧ PassesChecks (RunConfig.settingOf processors given)) ∧
    ∀ c, RunConfig.ofValues processors given = .ok c →
      (c.concurrency.IsAtLeast 1 ↔ c.concurrency ≠ .real .undefined) ∧
      (c.timeout.IsAbove 0 ↔ c.timeout ≠ .real .undefined) ∧
      (c.timeout.IsDeadline ↔ c.timeout ≠ .real .undefined ∧ c.timeout ≠ .real (.infinite false)) ∧
      RunConfig.settingOf processors given "optimize_level" = .text c.level.name ∧
      RunConfig.settingOf processors given "isolation" = .text c.isolation.name ∧
      (∀ x, c.maxMutations = some x → (x.IsAtLeast 0 ↔ x ≠ .real .undefined)) ∧
      (∀ p : Plan, p.config = c → ∀ file job request, p.MayAsk file job request →
        request.timeout = c.timeout) ∧
      ∀ s scope outcome, runProject c s scope = .ok outcome →
        ∀ o ∈ outcome.completed.observations, o.request.timeout = c.timeout := by
  refine ⟨RunConfig.exists_ofValues_iff, fun c hmade => ?_⟩
  obtain ⟨hconcurrency, htimeout, hlevel, hisolation⟩ := RunConfig.isAccepted_of_ofValues hmade
  have habove : c.timeout.IsAbove 0 ↔ c.timeout ≠ .real .undefined :=
    ⟨Amount.IsAbove.ne_undefined, (Amount.isAtMostZero_eq_false_iff.mp htimeout).resolve_right⟩
  refine ⟨⟨Amount.IsAtLeast.ne_undefined,
    (Amount.isBelowOne_eq_false_iff.mp hconcurrency).resolve_right⟩, habove, ?_, hlevel, hisolation,
    fun x hx => ⟨Amount.IsAtLeast.ne_undefined, ?_⟩, ?_, ?_⟩
  · rw [Amount.isDeadline_iff, habove]
  · have hlimit := RunConfig.isNegative_of_ofValues hmade hx
    exact (Amount.isNegative_eq_false_iff.mp hlimit).resolve_right
  · rintro p rfl file job request hasks
    exact timeout_of_mayAsk hasks
  · intro s scope outcome hrun o ho
    obtain ⟨found, p, hplans, hfiles, -, -⟩ := exists_plan_of_runProject hrun
    obtain ⟨file, -, job, -, hasks⟩ :=
      (exists_mayAsk_of_runFiles hfiles o ho).resolve_left List.not_mem_nil
    rw [timeout_of_mayAsk hasks, hplans.config_eq]

/-- Five seconds are a deadline, and the tests of the second of two modules have it. -/
theorem module_tested_with_deadline :
    overlappingNames.concurrency.IsAtLeast 1 ∧
      (∀ x, overlappingNames.maxMutations = some x → x.IsAtLeast 0) ∧
      ∃ job ∈ jobsOf planOfModules.selected moduleA, ∃ request,
        planOfModules.MayAsk moduleA job request ∧ request.timeout.IsDeadline := by
  have hmade : RunConfig.ofValues none overlappingNames.toEntries = .ok overlappingNames := by rfl
  obtain ⟨hconcurrency, -, hdeadline, -, -, hlimit, hrequest, -⟩ :=
    (accepted_limits_in_range_iff none overlappingNames.toEntries).2 _ hmade
  have hasked : ∃ job ∈ jobsOf planOfModules.selected moduleA,
      (execute (planOfModules.assignment singleWorker moduleA) ⟨twoModules.files, [], []⟩ 0
        job).1.observations ≠ [] := by decide +kernel
  obtain ⟨job, hjob, hobserved⟩ := hasked
  obtain ⟨request, hasks⟩ := exists_mayAsk_of_execute poolOptions_overlappingNames hobserved
  refine ⟨hconcurrency.mpr (by decide), fun x hx => (hlimit x hx).mpr ?_, job, hjob, request, hasks, ?_⟩
  · rintro rfl
    cases hx
  · rw [hrequest planOfModules rfl moduleA job request hasks]
    exact hdeadline.mpr (by decide)

/-- So limits that are undefined numbers are accepted, although they are in no range. -/
theorem undefined_limits_accepted :
    ∃ c, RunConfig.ofValues none
        [("concurrency", .real .undefined), ("timeout", .real .undefined),
          ("max_mutations", .real .undefined)] = .ok c ∧
      ¬ c.concurrency.IsAtLeast 1 ∧ ¬ c.timeout.IsAbove 0 ∧ ¬ c.timeout.IsDeadline ∧
      ∃ x, c.maxMutations = some x ∧ ¬ x.IsAtLeast 0 := by
  refine ⟨_, rfl, fun h => h.ne_undefined rfl, fun h => h.ne_undefined rfl, fun h => ?_,
    _, rfl, fun h => h.ne_undefined rfl⟩
  exact (Amount.isDeadline_iff.mp h).1.ne_undefined rfl

end MutationTesting.Run
