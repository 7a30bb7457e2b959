import MutationTesting.Proofs.Failure
import MutationTesting.Settings.Reading

/-!
# What an accepted configuration ensures

A configuration is accepted when what limits a run passes its checks.  The other values are kept as
they are given, so a run may still find that one of them is of a kind that it cannot use.
-/

namespace MutationTesting

theorem Optimizer.Level.name_of_ofName? {name : String} {level : Level}
    (hname : ofName? name = some level) : level.name = name := by
  rw [ofName?] at hname
  simpa using List.find?_some hname

theorem Run.Isolation.name_of_ofName? {name : String} {isolation : Isolation}
    (hname : ofName? name = some isolation) : isolation.name = name := by
  rw [ofName?] at hname
  simpa using List.find?_some hname

namespace Settings

open MutationTesting.Run (Isolation)
open MutationTesting.Optimizer (Candidate Level Options Overrides)

section Kinds

variable {α β : Type}

/-- Whether a computation fails only because of the kind of a value. -/
def FailsByKind (result : Except UseError α) : Prop := ∀ e, result = .error e → e = .wrongKind

namespace FailsByKind

theorem ok (value : α) : FailsByKind (.ok value : Except UseError α) := fun _ h => nomatch h

theorem wrongKind : FailsByKind (.error .wrongKind : Except UseError α) := by
  rintro e ⟨⟩
  rfl

theorem bind {first : Except UseError α} {next : α → Except UseError β}
    (hfirst : FailsByKind first) (hnext : ∀ value, FailsByKind (next value)) :
    FailsByKind (first >>= next) := by
  intro e hresult
  rcases bind_eq_error_iff.mp hresult with hfails | ⟨value, -, hfails⟩
  · exact hfirst e hfails
  · exact hnext value e hfails

theorem ite {condition : Prop} [Decidable condition] {first second : Except UseError α}
    (hfirst : FailsByKind first) (hsecond : FailsByKind second) :
    FailsByKind (if condition then first else second) := by
  split
  · exact hfirst
  · exact hsecond

theorem mapM {compute : α → Except UseError β} (hcompute : ∀ item, FailsByKind (compute item))
    (items : List α) : FailsByKind (items.mapM compute) := by
  induction items with
  | nil => exact ok []
  | cons first rest ih =>
      rw [List.mapM_cons]
      exact (hcompute first).bind fun _ => ih.bind fun _ => ok _

end FailsByKind

theorem Value.failsByKind_items (v : Value) : FailsByKind v.items := by
  unfold Value.items
  split
  · exact FailsByKind.ok _
  · exact FailsByKind.ok _
  · exact FailsByKind.ok _
  · exact FailsByKind.wrongKind

theorem Value.failsByKind_asText (v : Value) : FailsByKind v.asText := by
  unfold Value.asText
  split
  · exact FailsByKind.ok _
  · exact FailsByKind.wrongKind

theorem Value.failsByKind_asTexts (v : Value) : FailsByKind v.asTexts :=
  v.failsByKind_items.bind (FailsByKind.mapM Value.failsByKind_asText)

theorem failsByKind_count (v : Value) : FailsByKind (count v) := by
  unfold count
  split
  · split
    · exact FailsByKind.ok _
    · exact FailsByKind.wrongKind
  · exact FailsByKind.wrongKind

theorem failsByKind_threshold (candidates : List Candidate) (v : Value) :
    FailsByKind (threshold candidates v) := by
  unfold threshold
  split
  · split
    · exact FailsByKind.ok _
    · exact FailsByKind.ok _
  · exact FailsByKind.wrongKind

theorem OptimizerSettings.failsByKind_options (s : OptimizerSettings) (scored : List Candidate) :
    FailsByKind (s.options scored) := by
  unfold OptimizerSettings.options
  refine FailsByKind.ite (FailsByKind.ok _) ?_
  -- both ways to the least complexity go on alike, and so do those to the limit of a function
  refine FailsByKind.ite (FailsByKind.bind (FailsByKind.ok 0) ?limit)
    (FailsByKind.bind (failsByKind_threshold _ _) ?limit)
  intro minComplexity
  refine FailsByKind.ite (FailsByKind.bind (FailsByKind.ok 0) ?result)
    (FailsByKind.bind (failsByKind_count _) ?result)
  exact fun maxPerFunction => FailsByKind.ok _

theorem RunConfig.failsByKind_firstMutations (c : RunConfig) (selected : List Candidate) :
    FailsByKind (c.firstMutations selected) := by
  unfold RunConfig.firstMutations
  split
  · exact FailsByKind.ok _
  · split
    · exact FailsByKind.ok _
    · exact FailsByKind.wrongKind

theorem RunConfig.failsByKind_invocation (c : RunConfig) (directory : Option String) :
    FailsByKind (c.invocation directory) := by
  unfold RunConfig.invocation
  split
  · exact c.environmentName.failsByKind_asText.bind fun _ => FailsByKind.ok _
  · exact (Value.failsByKind_asTexts _).bind fun _ =>
      c.environmentName.failsByKind_asText.bind fun _ => FailsByKind.ok _

end Kinds

namespace RunConfig

/-- The value of a setting, given or usual. -/
def settingOf (processors : Option Int) (entries : Entries) (name : String) : Value :=
  (entries.get? name).getD (defaultValue processors name)

/-- What the checks of a configuration ensure when it is made. -/
structure IsAccepted (processors : Option Int) (entries : Entries) (c : RunConfig) : Prop where
  concurrency : c.concurrency.isBelowOne = false
  timeout : c.timeout.isAtMostZero = false
  level : settingOf processors entries "optimize_level" = .text c.level.name
  isolation : settingOf processors entries "isolation" = .text c.isolation.name

theorem rejecting_ne_ok {α : Type} {reject : String → Rejection} {v : Value} {result : α} :
    rejecting reject v ≠ .ok result := by
  unfold rejecting
  split <;> simp

theorem isRefused_of_checked {comparison : String} {isRefused : Amount → Bool}
    {reject : String → Rejection} {v : Value} {x : Amount}
    (hchecked : checked comparison isRefused reject v = .ok x) : isRefused x = false := by
  unfold checked at hchecked
  split at hchecked
  · split at hchecked
    next => exact absurd hchecked rejecting_ne_ok
    next hpasses =>
        cases hchecked
        simpa using hpasses
  · cases hchecked

theorem eq_of_checkedLevel {v : Value} {level : Level} (hchecked : checkedLevel v = .ok level) :
    v = .text level.name := by
  unfold checkedLevel at hchecked
  split at hchecked
  · cases hchecked
  · split at hchecked
    · split at hchecked
      next name level hname =>
          cases hchecked
          exact congrArg Value.text (Level.name_of_ofName? hname).symm
      next => exact absurd hchecked rejecting_ne_ok
    · exact absurd hchecked rejecting_ne_ok

theorem eq_of_checkedIsolation {v : Value} {isolation : Isolation}
    (hchecked : checkedIsolation v = .ok isolation) : v = .text isolation.name := by
  unfold checkedIsolation at hchecked
  split at hchecked
  · split at hchecked
    next name isolation hname =>
        cases hchecked
        exact congrArg Value.text (Isolation.name_of_ofName? hname).symm
    next => exact absurd hchecked rejecting_ne_ok
  · exact absurd hchecked rejecting_ne_ok

/-- How the values of a configuration come from its settings: some are checked, others kept. -/
structure ComesFrom (processors : Option Int) (entries : Entries) (c : RunConfig) : Prop where
  concurrency : checked "<" Amount.isBelowOne .concurrencyTooLow
    (settingOf processors entries "concurrency") = .ok c.concurrency
  timeout : checked "<=" Amount.isAtMostZero .timeoutNotPositive
    (settingOf processors entries "timeout") = .ok c.timeout
  level : checkedLevel (settingOf processors entries "optimize_level") = .ok c.level
  isolation : checkedIsolation (settingOf processors entries "isolation") = .ok c.isolation
  maxMutations : checkedLimit (settingOf processors entries "max_mutations") = .ok c.maxMutations
  optimize : c.optimize = settingOf processors entries "optimize"
  maxPerFunction : c.maxPerFunction = settingOf processors entries "max_per_function"

variable {processors : Option Int} {entries : Entries} {c : RunConfig}

theorem comesFrom_of_ofValues (hmade : ofValues processors entries = .ok c) :
    ComesFrom processors entries c := by
  unfold ofValues at hmade
  dsimp only at hmade
  split at hmade
  · cases hmade
  · obtain ⟨concurrency, hconcurrency, hmade⟩ := bind_eq_ok_iff.mp hmade
    obtain ⟨timeout, htimeout, hmade⟩ := bind_eq_ok_iff.mp hmade
    obtain ⟨level, hlevel, hmade⟩ := bind_eq_ok_iff.mp hmade
    obtain ⟨isolation, hisolation, hmade⟩ := bind_eq_ok_iff.mp hmade
    obtain ⟨limit, hlimit, hmade⟩ := bind_eq_ok_iff.mp hmade
    cases hmade
    exact ⟨hconcurrency, htimeout, hlevel, hisolation, hlimit, rfl, rfl⟩

theorem isAccepted_of_ofValues (hmade : ofValues processors entries = .ok c) :
    IsAccepted processors entries c := by
  have hvalues := comesFrom_of_ofValues hmade
  exact ⟨isRefused_of_checked hvalues.concurrency, isRefused_of_checked hvalues.timeout,
    eq_of_checkedLevel hvalues.level, eq_of_checkedIsolation hvalues.isolation⟩

end RunConfig

end Settings

end MutationTesting
