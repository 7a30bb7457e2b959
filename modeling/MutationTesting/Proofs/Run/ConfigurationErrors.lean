import MutationTesting.Proofs.Run.Description
import MutationTesting.Proofs.Run.Inquiry
import MutationTesting.Proofs.Run.Plan
import MutationTesting.Proofs.Settings.Acceptance

/-!
# When a configuration is refused

A configuration is checked when it is made, and some of its values are checked again where they are
used: the level by the options of the optimizer, the numbers and the isolation by the pools of the run.
These later checks accept whatever the first one does.  So all that can still be wrong with a
configuration are the names of its strategies, and a run looks at them before it asks for anything.
-/

namespace MutationTesting

namespace Strategy

/-- Whether a name is not blank and no strategy has it. -/
def IsUnknown (name : String) : Prop :=
  normalizedName name ≠ "" ∧ normalizedName name ∉ all.map key

theorem ofKey?_eq_none_iff {name : String} : ofKey? name = none ↔ name ∉ all.map key := by
  rw [ofKey?, List.find?_eq_none, List.mem_map, not_exists]
  simp only [beq_iff_eq, not_and]

theorem exists_ofNames_error_iff {names : List String} :
    (∃ e, ofNames names = .error e) ↔ ∃ name ∈ names, IsUnknown name := by
  induction names with
  | nil => simp [ofNames]
  | cons first rest ih =>
      rw [ofNames, List.exists_mem_cons_iff, ← ih]
      split
      next hblank => exact (or_iff_right fun hunknown => hunknown.1 hblank).symm
      next hname =>
          split
          next hnone =>
              have hfirst : IsUnknown first := ⟨hname, ofKey?_eq_none_iff.mp hnone⟩
              simp [hfirst]
          next strategy hsome =>
              have hfirst : ¬IsUnknown first := fun hunknown => by
                rw [ofKey?_eq_none_iff.mpr hunknown.2] at hsome
                cases hsome
              cases hrest : ofNames rest with
              | error e => simp [hfirst, Except.map]
              | ok strategies => simp [hfirst, Except.map]

end Strategy

theorem Amount.one_le_of_whole? {x : Amount} {n : Int} (hx : x.isBelowOne = false)
    (hn : x.whole? = some n) : 1 ≤ n := by
  cases x with
  | flag value =>
      cases value with
      | false => cases hx
      | true =>
          cases hn
          decide
  | whole value =>
      cases hn
      simpa [isBelowOne] using hx
  | real value => cases hn

theorem Optimizer.Level.ofName?_name (level : Optimizer.Level) :
    ofName? level.name = some level := by
  cases level <;> rfl

namespace Settings

namespace RunConfig

open MutationTesting.Optimizer (Options UnknownLevel)

/-- The options of the optimizer, with those of the level looked up by its name. -/
def presetSettings (c : RunConfig) : Except UnknownLevel OptimizerSettings :=
  if c.optimize.isYes then do
    let usual ← Options.preset c.level.name {}
    pure ⟨usual.enabled, given c.minComplexity usual.minComplexity,
      given c.maxPerFunction usual.maxPerFunction, usual.keepsBoundary⟩
  else
    let usual : Options := {}
    pure ⟨usual.enabled, .whole usual.minComplexity, .whole usual.maxPerFunction,
      usual.keepsBoundary⟩

/-- The level of a configuration is always found. -/
theorem presetSettings_eq_ok (c : RunConfig) : c.presetSettings = .ok c.optimizerSettings := by
  rw [presetSettings, optimizerSettings, Options.preset, Optimizer.Level.ofName?_name]
  split
  · rfl
  · rfl

end RunConfig

theorem Value.leadingTexts_map_text (names : List String) :
    leadingTexts (names.map text) = (names, false) := by
  induction names with
  | nil => rfl
  | cons first rest ih => rw [List.map_cons, leadingTexts, ih]

theorem RunConfig.chosenStrategies_of_names {c : RunConfig} {names : Option (List String)}
    (hnames : c.strategies = names.elim .absent .texts) :
    c.chosenStrategies = (Strategy.select names).mapError .unknownStrategy := by
  rw [chosenStrategies, hnames]
  cases names with
  | none => rfl
  | some names =>
      dsimp only [Option.elim_some, Value.texts, Value.items, bind, Except.bind]
      rw [Value.leadingTexts_map_text]
      cases Strategy.select (some names) <;> rfl

end Settings

namespace Run

open MutationTesting.Files (Path)
open MutationTesting.Settings (Entries FailsByKind RunConfig UseError)
open MutationTesting.Optimizer (Candidate)

/-- Whether an error says that the configuration of a run is wrong. -/
def RunError.IsConfiguration : RunError → Prop
  | .use (.unknownStrategy _) => True
  | .pool _ => True
  | _ => False

/-- No configuration is refused because a value is of a wrong kind. -/
theorem not_isConfiguration_of_failsByKind {α : Type} {result : Except UseError α}
    (hresult : FailsByKind result) {e : RunError} (he : result.mapError .use = .error e) :
    ¬e.IsConfiguration := by
  obtain ⟨failure, hfailure, rfl⟩ := mapError_eq_error_iff.mp he
  rw [hresult failure hfailure]
  exact id

/-- The pools of a run take every accepted configuration. -/
theorem not_isConfiguration_of_poolOptions {processors : Option Int} {entries : Entries} {c : RunConfig}
    (hc : RunConfig.IsAccepted processors entries c) (root : Option Path) {e : RunError}
    (he : poolOptions c root = .error e) : ¬e.IsConfiguration := by
  rcases bind_eq_error_iff.mp he with hinvocation | ⟨invocation, -, hmake⟩
  · exact not_isConfiguration_of_failsByKind (c.failsByKind_invocation root) hinvocation
  · split at hmake
    · cases hmake
      exact id
    next workers hworkers =>
      have hmade : PoolOptions.make workers c.timeout invocation c.isolation.name false =
          .ok ⟨workers.toNat, c.timeout, invocation, c.isolation, false⟩ :=
        make_eq_ok_iff.mpr ⟨Amount.one_le_of_whole? hc.concurrency hworkers, hc.timeout,
          c.isolation, ofName?_name c.isolation, rfl⟩
      rw [hmade] at hmake
      cases hmake

namespace Inquiry

variable {α β : Type} {bad : RunError → Prop}

/-- Whether an inquiry does not fail in a certain way, whatever its requests are answered with. -/
def Avoids (bad : RunError → Prop) : Inquiry α → Prop
  | done result => ∀ e, result = .error e → ¬bad e
  | ask _ next => ∀ answer, (next answer).Avoids bad

namespace Avoids

theorem pure (value : α) : (Pure.pure value : Inquiry α).Avoids bad := fun _ h => nomatch h

theorem request (r : Request) : (Inquiry.request r).Avoids bad := fun answer => pure answer

theorem bind {first : Inquiry α} {next : α → Inquiry β} (hfirst : first.Avoids bad)
    (hnext : ∀ value, (next value).Avoids bad) : (first >>= next).Avoids bad := by
  induction first with
  | done result =>
      cases result with
      | error e =>
          rintro _ ⟨⟩
          exact hfirst e rfl
      | ok value => exact hnext value
  | ask request answered ih => exact fun answer => ih answer (hfirst answer)

theorem mapM {look : α → Inquiry β} (hlook : ∀ item, (look item).Avoids bad) (items : List α) :
    (items.mapM look).Avoids bad := by
  induction items with
  | nil => exact pure []
  | cons first rest ih =>
      rw [List.mapM_cons]
      exact (hlook first).bind fun _ => ih.bind fun _ => pure _

theorem of_use {result : Except UseError α} (hresult : FailsByKind result) :
    (done (result.mapError .use)).Avoids RunError.IsConfiguration :=
  fun _ => not_isConfiguration_of_failsByKind hresult

theorem enact {i : Inquiry α} (havoids : i.Avoids bad) {s : Surroundings} {e : RunError}
    (he : (i.enact s).result = .error e) : ¬bad e := by
  induction i generalizing s with
  | done result => exact havoids e he
  | ask request next ih => exact ih _ (havoids _) he

end Avoids

end Inquiry

theorem inquirePatterns_avoids {bad : RunError → Prop} (scope : Scope)
    (excluded patterns : List Path) : (inquirePatterns scope excluded patterns).Avoids bad :=
  have hlook : ∀ pattern,
      (Inquiry.request (.sources scope.root excluded (scope.under pattern))).Avoids bad :=
    fun _ => Inquiry.Avoids.request _
  (Inquiry.Avoids.mapM hlook patterns).bind fun _ => Inquiry.Avoids.pure _

theorem inquireSources_avoids (c : RunConfig) (scope : Scope) :
    (inquireSources c scope).Avoids RunError.IsConfiguration := by
  rw [inquireSources]
  refine (Inquiry.Avoids.of_use c.exclude.failsByKind_asTexts).bind fun excluded => ?_
  dsimp only
  split
  · exact (Inquiry.Avoids.of_use c.paths.failsByKind_asTexts).bind
      (inquirePatterns_avoids scope _)
  · exact inquirePatterns_avoids scope _ scope.patterns

theorem inquireResults_avoids {c : RunConfig} {root : Option Path}
    (hpool : (Inquiry.done (poolOptions c root)).Avoids RunError.IsConfiguration)
    (selected : List Candidate) (files : List SourceFile) (tests : List Path)
    (dependencies : Dependencies.DependencyMap) (rest : List SourceFile) :
    (inquireResults c root selected files tests dependencies rest).Avoids
      RunError.IsConfiguration := by
  induction rest with
  | nil => exact Inquiry.Avoids.pure []
  | cons file others ih =>
      rw [inquireResults]
      split
      · exact ih
      · exact hpool.bind fun _ => (Inquiry.Avoids.request _).bind fun _ =>
          ih.bind fun _ => Inquiry.Avoids.pure _

/-- Once its strategies are known, an accepted configuration is not refused any more. -/
theorem inquireProject_avoids {processors : Option Int} {entries : Entries} {c : RunConfig}
    (hc : RunConfig.IsAccepted processors entries c) {strategies : List Strategy}
    (hstrategies : c.chosenStrategies = .ok strategies) (scope : Scope) :
    (inquireProject c scope).Avoids RunError.IsConfiguration := by
  have hpool : (Inquiry.done (poolOptions c scope.root)).Avoids RunError.IsConfiguration :=
    fun _ he => not_isConfiguration_of_poolOptions hc scope.root he
  refine Inquiry.Avoids.bind ?_ fun strategies => ?_
  · intro e he
    rw [hstrategies] at he
    cases he
  refine (inquireSources_avoids c scope).bind fun files => ?_
  refine Inquiry.Avoids.bind ?_ fun found => ?_
  · intro e he
    obtain ⟨failure, -, rfl⟩ := mapError_eq_error_iff.mp he
    exact id
  refine (Inquiry.Avoids.of_use (c.optimizerSettings.failsByKind_options _)).bind fun options => ?_
  refine (Inquiry.Avoids.of_use (c.failsByKind_firstMutations _)).bind fun selected => ?_
  refine (Inquiry.Avoids.of_use c.testDirectory.failsByKind_asText).bind fun testDirectory => ?_
  refine (Inquiry.Avoids.request _).bind fun tests => ?_
  refine (Inquiry.Avoids.request _).bind fun dependencies => ?_
  exact (inquireResults_avoids hpool selected files tests dependencies files).bind fun results =>
    Inquiry.Avoids.pure _

/-- A run that cannot tell its strategies ends at once. -/
theorem inquireProject_of_unknown {c : RunConfig} {e : UseError}
    (hstrategies : c.chosenStrategies = .error e) (scope : Scope) :
    inquireProject c scope = .done (.error (.use e)) := by
  rw [inquireProject, hstrategies]
  rfl

theorem outcome_eq_error_iff {ending : Ending Findings} {e : RunError} :
    ending.outcome = .error e ↔ ending.result = .error e := by
  cases hresult : ending.result with
  | error failure => simp [Ending.outcome, hresult, Except.map]
  | ok findings => simp [Ending.outcome, hresult, Except.map]

/-- The run of an accepted configuration refuses it exactly if the name of a strategy is unknown, and
then it has asked for nothing.  Neither the options of the optimizer nor the pools refuse what was
accepted. -/
theorem configuration_refused_before_any_request {processors : Option Int} {entries : Entries}
    {c : RunConfig} (hmade : RunConfig.ofValues processors entries = .ok c)
    {names : Option (List String)} (hnames : c.strategies = names.elim .absent .texts)
    (scope : Scope) :
    (∀ s, (∃ e, runProject c s scope = .error e ∧ e.IsConfiguration) ↔
      ∃ name ∈ names.getD [], Strategy.IsUnknown name) ∧
    (∀ s, runProject c s scope = ((inquireProject c scope).enact s).outcome ∧
      ((∃ name ∈ names.getD [], Strategy.IsUnknown name) →
        ((inquireProject c scope).enact s).requests = [] ∧
        ((inquireProject c scope).enact s).files = s.files ∧
        ((inquireProject c scope).enact s).observations = [])) ∧
    (RunConfig.settingOf processors entries "optimize_level" = .text c.level.name ∧
      c.presetSettings = .ok c.optimizerSettings) ∧
    ∀ root e, poolOptions c root = .error e → ¬e.IsConfiguration := by
  have hc := RunConfig.isAccepted_of_ofValues hmade
  have hchosen := RunConfig.chosenStrategies_of_names hnames
  have hunknown : (∃ name ∈ names.getD [], Strategy.IsUnknown name) ↔
      ∃ e, Strategy.select names = .error e := by
    rw [← Strategy.exists_ofNames_error_iff]
    cases names with
    | none => simp [Strategy.select, Strategy.ofNames]
    | some names => rfl
  refine ⟨fun s => ?_, fun s => ⟨runProject_eq_outcome c s scope, ?_⟩,
    ⟨hc.level, c.presetSettings_eq_ok⟩, fun root e => not_isConfiguration_of_poolOptions hc root⟩
  · rw [hunknown]
    simp only [runProject_eq_outcome, outcome_eq_error_iff]
    cases hselect : Strategy.select names with
    | error e =>
        rw [hselect] at hchosen
        rw [inquireProject_of_unknown hchosen]
        exact iff_of_true ⟨_, rfl, trivial⟩ ⟨e, rfl⟩
    | ok strategies =>
        rw [hselect] at hchosen
        have havoids := inquireProject_avoids hc hchosen scope
        refine iff_of_false ?_ (fun ⟨e, he⟩ => nomatch he)
        rintro ⟨e, he, hconfiguration⟩
        exact havoids.enact he hconfiguration
  · rw [hunknown]
    rintro ⟨e, hselect⟩
    rw [hselect] at hchosen
    rw [inquireProject_of_unknown hchosen]
    exact ⟨rfl, rfl, rfl⟩

/-- Two strategies, of which one does not exist, and a time limit. -/
def misnamedEntries : Entries :=
  [("strategies", .texts ["Arithmetic", "nope"]), ("timeout", .whole 5)]

/-- The configuration with these values. -/
def misnamedStrategy : RunConfig where
  paths := .texts ["src"]
  exclude := .list []
  testDirectory := .text "tests"
  strategies := .texts ["Arithmetic", "nope"]
  concurrency := .whole 1
  timeout := .whole 5
  optimize := .flag false
  level := .balanced
  minComplexity := .absent
  maxPerFunction := .absent
  maxMutations := none
  isolation := .lock
  testCommand := .absent
  environmentName := .text "test"

/-- The name that does not exist is told before anything is asked for. -/
theorem misnamed_strategy_refused_at_once :
    RunConfig.ofValues (some 2) misnamedEntries = .ok misnamedStrategy ∧
      misnamedStrategy.strategies = (some ["Arithmetic", "nope"]).elim .absent .texts ∧
      (∃ e, runProject misnamedStrategy hyphenProject ⟨[], none⟩ = .error e ∧
        e.IsConfiguration) ∧
      ((inquireProject misnamedStrategy ⟨[], none⟩).enact hyphenProject).requests = [] := by
  have hmade : RunConfig.ofValues (some 2) misnamedEntries = .ok misnamedStrategy := rfl
  have hnames : misnamedStrategy.strategies =
      (some ["Arithmetic", "nope"]).elim .absent .texts := rfl
  have hunknown : ∃ name ∈ (some ["Arithmetic", "nope"]).getD [], Strategy.IsUnknown name :=
    ⟨"nope", List.mem_cons_of_mem _ List.mem_cons_self, by decide, by decide⟩
  obtain ⟨hrefused, hsilent, -⟩ :=
    configuration_refused_before_any_request hmade hnames ⟨[], none⟩
  exact ⟨hmade, hnames, (hrefused hyphenProject).mpr hunknown,
    ((hsilent hyphenProject).2 hunknown).1⟩

end Run

end MutationTesting
