import Mathlib
import MutationTesting.Proofs.Number.Digits
import MutationTesting.Proofs.Settings.Acceptance
import MutationTesting.Proofs.Settings.Toml.LongNumber
import MutationTesting.Settings.Loading

/-!
# When loading fails in a way that is not foreseen

A configuration that cannot be loaded should be told from a program that breaks.  It is in most ways:
a malformed file, an unknown name, a value of the wrong kind or beyond its limits.  Four ways are left
out: a file that is no text, a number in it that is too long, a section that is no table, and a value
that is refused but too long to be shown.
-/

namespace MutationTesting.Settings

open MutationTesting.Optimizer (Level)
open MutationTesting.Run (Isolation)
open MutationTesting.Text.Utf8 (decode?)

/-- Whether a whole number with too many digits is in a value. -/
inductive Value.HoldsLongNumber : Value → Prop
  | whole {n : Int} (hlong : 10 ^ Decimal.maxDigits ≤ n.natAbs) : HoldsLongNumber (.whole n)
  | item {items : List Value} {v : Value} (hmem : v ∈ items) (hv : HoldsLongNumber v) :
      HoldsLongNumber (.list items)
  | entry {entries : Entries} {name : String} {v : Value} (hmem : (name, v) ∈ entries)
      (hv : HoldsLongNumber v) : HoldsLongNumber (.table entries)

namespace Value

theorem toText?_eq_none_iff {x : Amount} :
    x.toText? = none ↔ HoldsLongNumber (.amount x) := by
  cases x with
  | whole n =>
      rw [Amount.toText?, ite_eq_right_iff, Decimal.fits_iff]
      constructor
      · intro hlong
        exact .whole (Nat.le_of_not_lt fun hshort => nomatch hlong hshort)
      · rintro ⟨hlong⟩ hshort
        omega
  | _ => exact iff_of_false (fun h => nomatch h) (fun h => nomatch h)

mutual

/-- A value cannot be shown just when such a number is in it. -/
theorem shown?_eq_none_iff : ∀ v : Value, v.shown? = none ↔ v.HoldsLongNumber
  | .absent | .text _ | .moment _ => iff_of_false (fun h => nomatch h) (fun h => nomatch h)
  | .amount x => toText?_eq_none_iff
  | .list items => by
      rw [shown?, Option.map_eq_none_iff, shownItems?_eq_none_iff items]
      constructor
      · rintro ⟨v, hmem, hv⟩
        exact .item hmem hv
      · intro hlong
        cases hlong with
        | item hmem hv => exact ⟨_, hmem, hv⟩
  | .table entries => by
      rw [shown?, Option.map_eq_none_iff, shownEntries?_eq_none_iff entries]
      constructor
      · rintro ⟨⟨name, v⟩, hmem, hv⟩
        exact .entry hmem hv
      · intro hlong
        cases hlong with
        | entry hmem hv => exact ⟨_, hmem, hv⟩

theorem shownItems?_eq_none_iff : ∀ items : List Value,
    shownItems? items = none ↔ ∃ v ∈ items, v.HoldsLongNumber
  | [] => by simp [shownItems?]
  | first :: rest => by
      rw [List.exists_mem_cons_iff, ← shown?_eq_none_iff first, ← shownItems?_eq_none_iff rest,
        shownItems?]
      cases shown? first <;> cases shownItems? rest <;> simp

theorem shownEntries?_eq_none_iff : ∀ entries : List (String × Value),
    shownEntries? entries = none ↔ ∃ entry ∈ entries, entry.2.HoldsLongNumber
  | [] => by simp [shownEntries?]
  | (name, value) :: rest => by
      rw [List.exists_mem_cons_iff, ← shown?_eq_none_iff value, ← shownEntries?_eq_none_iff rest,
        shownEntries?]
      cases shown? value <;> cases shownEntries? rest <;> simp

end

end Value

/-- The settings whose values are shown when they are refused. -/
inductive ShownSetting where
  | concurrency
  | timeout
  | level
  | isolation
deriving DecidableEq, Repr

namespace ShownSetting

def name : ShownSetting → String
  | concurrency => "concurrency"
  | timeout => "timeout"
  | level => "optimize_level"
  | isolation => "isolation"

/-- The place of a setting in the order in which they are checked. -/
def place : ShownSetting → Nat
  | concurrency => 0
  | timeout => 1
  | level => 2
  | isolation => 3

/-- Whether a setting may have a value. -/
def Accepts : ShownSetting → Value → Prop
  | concurrency, v => ∃ x, v = .amount x ∧ x.isBelowOne = false
  | timeout, v => ∃ x, v = .amount x ∧ x.isAtMostZero = false
  | level, v => ∃ l : Level, v = .text l.name
  | isolation, v => ∃ i : Isolation, v = .text i.name

/-- Whether a setting may not have a value, and this is told with the value.  A value of the wrong
kind may be refused for its kind alone. -/
def Refuses : ShownSetting → Value → Prop
  | concurrency, v => ∃ x, v = .amount x ∧ x.isBelowOne = true
  | timeout, v => ∃ x, v = .amount x ∧ x.isAtMostZero = true
  | level, v => v.isKey = true ∧ ∀ l : Level, v ≠ .text l.name
  | isolation, v => ∀ i : Isolation, v ≠ .text i.name

section Values

variable (processors : Option Int) (values : Entries) (s : ShownSetting)

/-- The value of a setting, given or usual. -/
def valueIn : Value := RunConfig.settingOf processors values s.name

/-- Whether the value of a setting is refused, but too long to be shown. -/
def CannotBeShown : Prop :=
  s.Refuses (s.valueIn processors values) ∧ (s.valueIn processors values).HoldsLongNumber

/-- Whether this is so of the first setting that is not accepted. -/
def IsStuck : Prop :=
  s.CannotBeShown processors values ∧
    ∀ s' : ShownSetting, s'.place < s.place → s'.Accepts (s'.valueIn processors values)

/-- The settings are looked at one after the other, until one is refused. -/
theorem exists_isStuck_iff :
    (∃ s : ShownSetting, s.IsStuck processors values) ↔
      concurrency.CannotBeShown processors values ∨
        concurrency.Accepts (concurrency.valueIn processors values) ∧
          (timeout.CannotBeShown processors values ∨
            timeout.Accepts (timeout.valueIn processors values) ∧
              (level.CannotBeShown processors values ∨
                level.Accepts (level.valueIn processors values) ∧
                  isolation.CannotBeShown processors values)) := by
  constructor
  · rintro ⟨s, hfails, hearlier⟩
    cases s with
    | concurrency => exact .inl hfails
    | timeout => exact .inr ⟨hearlier concurrency (by decide), .inl hfails⟩
    | level =>
        exact .inr ⟨hearlier concurrency (by decide), .inr ⟨hearlier timeout (by decide), .inl hfails⟩⟩
    | isolation =>
        exact .inr ⟨hearlier concurrency (by decide), .inr ⟨hearlier timeout (by decide),
          .inr ⟨hearlier level (by decide), hfails⟩⟩⟩
  · rintro (hfails | ⟨hconcurrency, hfails | ⟨htimeout, hfails | ⟨hlevel, hfails⟩⟩⟩)
    · exact ⟨concurrency, hfails, by rintro ⟨⟩ h <;> cases h⟩
    · exact ⟨timeout, hfails, by rintro ⟨⟩ h <;> first | assumption | simp [place] at h⟩
    · exact ⟨level, hfails, by rintro ⟨⟩ h <;> first | assumption | simp [place] at h⟩
    · exact ⟨isolation, hfails, by rintro ⟨⟩ h <;> first | assumption | simp [place] at h⟩

end Values

end ShownSetting

namespace RunConfig

section Checks

variable {v : Value} {reject : String → Rejection} (hreject : ∀ shown, reject shown ≠ .longNumber)

include hreject

theorem rejecting_eq_longNumber_iff {α : Type} :
    (rejecting reject v : Except Rejection α) = .error .longNumber ↔ v.HoldsLongNumber := by
  rw [← Value.shown?_eq_none_iff, rejecting]
  cases v.shown? with
  | none => simp
  | some shown => simpa using hreject shown

theorem checked_eq_longNumber_iff {comparison : String} {isRefused : Amount → Bool} :
    checked comparison isRefused reject v = .error .longNumber ↔
      (∃ x, v = .amount x ∧ isRefused x = true) ∧ v.HoldsLongNumber := by
  unfold checked
  split
  next x =>
      split
      next hrefused => simp [rejecting_eq_longNumber_iff hreject, hrefused]
      next hpasses => simp [hpasses]
  next hkind =>
      refine iff_of_false (by simp) ?_
      rintro ⟨⟨x, rfl, -⟩, -⟩
      exact hkind x rfl

end Checks

theorem exists_checked_iff {comparison : String} {isRefused : Amount → Bool}
    {reject : String → Rejection} {v : Value} :
    (∃ x, checked comparison isRefused reject v = .ok x) ↔
      ∃ x, v = .amount x ∧ isRefused x = false := by
  unfold checked
  split
  next x =>
      split
      next hrefused => simp [rejecting_ne_ok, hrefused]
      next hpasses => simp [hpasses]
  next hkind =>
      refine iff_of_false (by simp) ?_
      rintro ⟨x, rfl, -⟩
      exact hkind x rfl

theorem checkedLevel_eq_longNumber_iff {v : Value} :
    checkedLevel v = .error .longNumber ↔
      ShownSetting.level.Refuses v ∧ v.HoldsLongNumber := by
  unfold checkedLevel
  split
  next hkey =>
      refine iff_of_false (by simp) fun h => ?_
      rw [h.1.1] at hkey
      cases hkey
  next hkey =>
      split
      next name =>
          refine iff_of_false ?_ fun h => nomatch h.2
          split
          · simp
          · simp [rejecting, Value.shown?]
      next hkind =>
          rw [rejecting_eq_longNumber_iff (by simp)]
          have hrefused : ShownSetting.level.Refuses v :=
            ⟨by simpa using hkey, fun l hl => hkind _ hl⟩
          exact (and_iff_right hrefused).symm

theorem exists_checkedLevel_iff {v : Value} :
    (∃ l, checkedLevel v = .ok l) ↔ ∃ l : Level, v = .text l.name := by
  constructor
  · rintro ⟨l, hl⟩
    exact ⟨l, eq_of_checkedLevel hl⟩
  · rintro ⟨l, rfl⟩
    cases l <;> exact ⟨_, rfl⟩

theorem checkedIsolation_eq_longNumber_iff {v : Value} :
    checkedIsolation v = .error .longNumber ↔
      ShownSetting.isolation.Refuses v ∧ v.HoldsLongNumber := by
  unfold checkedIsolation
  split
  next name =>
      refine iff_of_false ?_ fun h => nomatch h.2
      split
      · simp
      · simp [rejecting, Value.shown?]
  next hkind =>
      rw [rejecting_eq_longNumber_iff (by simp)]
      have hrefused : ShownSetting.isolation.Refuses v := fun i hi => hkind _ hi
      exact (and_iff_right hrefused).symm

theorem bind_eq_error_iff_of_forall {α β ε : Type} {first : Except ε α} {next : α → Except ε β}
    {failure : ε} {P : Prop} (hnext : ∀ value, next value = .error failure ↔ P) :
    first >>= next = .error failure ↔ first = .error failure ∨ (∃ value, first = .ok value) ∧ P := by
  rw [bind_eq_error_iff]
  simp only [hnext, exists_and_right]

theorem checkedLimit_ne_longNumber {v : Value} : checkedLimit v ≠ .error .longNumber := by
  unfold checkedLimit
  split
  · simp
  · split <;> simp
  · simp

/-- Values cannot be refused as they should just when the first setting that is refused is stuck. -/
theorem ofValues_eq_longNumber_iff {processors : Option Int} {values : Entries}
    (hnames : ∀ entry ∈ values, fieldNames.contains entry.1 = true) :
    ofValues processors values = .error .longNumber ↔
      ∃ s : ShownSetting, s.IsStuck processors values := by
  have hknown : values.find? (fun entry => !fieldNames.contains entry.1) = none :=
    List.find?_eq_none.mpr (by simpa using hnames)
  rw [ShownSetting.exists_isStuck_iff, ofValues, hknown]
  have hlast : ∀ (v : Value) (result : Option Amount → RunConfig),
      (checkedLimit v >>= fun limit => pure (result limit)) = .error .longNumber ↔ False := by
    intro v result
    refine iff_of_false (fun hlong => ?_) id
    rcases bind_eq_error_iff.mp hlong with hlimit | ⟨limit, -, hresult⟩
    · exact checkedLimit_ne_longNumber hlimit
    · cases hresult
  refine (bind_eq_error_iff_of_forall fun _ => bind_eq_error_iff_of_forall fun _ =>
    bind_eq_error_iff_of_forall fun _ => bind_eq_error_iff_of_forall fun _ => hlast _ _).trans ?_
  rw [checked_eq_longNumber_iff (by simp), exists_checked_iff]
  rw [checked_eq_longNumber_iff (by simp), exists_checked_iff, checkedLevel_eq_longNumber_iff,
    exists_checkedLevel_iff, checkedIsolation_eq_longNumber_iff, and_false, or_false]
  rfl

end RunConfig

section Folds

variable {α β ε : Type} {step : β → α → Except ε β}

theorem forall_error_foldlM {P : ε → Prop} (hstep : ∀ b a e, step b a = .error e → P e)
    {items : List α} {b : β} {e : ε} (hfold : items.foldlM step b = .error e) : P e := by
  induction items generalizing b with
  | nil => cases hfold
  | cons first rest ih =>
      rw [List.foldlM_cons] at hfold
      rcases bind_eq_error_iff.mp hfold with hfirst | ⟨b', -, hrest⟩
      · exact hstep b first e hfirst
      · exact ih hrest

theorem foldlM_keeps {P : β → Prop} (hstep : ∀ b a b', P b → step b a = .ok b' → P b')
    {items : List α} {b result : β} (hb : P b) (hfold : items.foldlM step b = .ok result) :
    P result := by
  induction items generalizing b with
  | nil =>
      cases hfold
      exact hb
  | cons first rest ih =>
      rw [List.foldlM_cons] at hfold
      obtain ⟨b', hfirst, hrest⟩ := bind_eq_ok_iff.mp hfold
      exact ih (hstep b first b' hb hfirst) hrest

end Folds

/-- Whether all names are names of settings. -/
def HasSettingNames (values : Entries) : Prop :=
  ∀ entry ∈ values, RunConfig.fieldNames.contains entry.1 = true

theorem HasSettingNames.set {values : Entries} (hvalues : HasSettingNames values) {name : String}
    (hname : RunConfig.fieldNames.contains name = true) (value : Value) :
    HasSettingNames (values.set name value) := by
  induction values with
  | nil => exact List.forall_mem_singleton.mpr hname
  | cons first rest ih =>
      obtain ⟨hfirst, hrest⟩ := List.forall_mem_cons.mp hvalues
      unfold Entries.set
      split
      · exact List.forall_mem_cons.mpr ⟨hfirst, hrest⟩
      · exact List.forall_mem_cons.mpr ⟨hfirst, ih hrest⟩

theorem hasSettingNames_sectionValues {found values : Entries}
    (hvalues : sectionValues found = .ok values) : HasSettingNames values := by
  refine foldlM_keeps ?_ (List.forall_mem_nil _) hvalues
  rintro values ⟨key, value⟩ changed hnames hstep
  dsimp only at hstep
  split at hstep
  next hname =>
      cases hstep
      exact hnames.set hname value
  next => cases hstep

theorem hasSettingNames_overridden {values overrides result : Entries}
    (hvalues : HasSettingNames values) (hresult : overridden values overrides = .ok result) :
    HasSettingNames result := by
  refine foldlM_keeps ?_ hvalues hresult
  rintro values ⟨name, value⟩ changed hnames hstep
  dsimp only at hstep
  split at hstep
  next hname =>
      cases hstep
      split
      · exact hnames
      · exact hnames.set hname value
  next => cases hstep

theorem isConfigurationError_of_sectionValues {found : Entries} {e : LoadError}
    (herror : sectionValues found = .error e) : e.isConfigurationError = true := by
  refine forall_error_foldlM (P := (·.isConfigurationError = true)) ?_ herror
  rintro values ⟨key, value⟩ e hstep
  dsimp only at hstep
  split at hstep
  next => cases hstep
  next =>
      cases hstep
      rfl

theorem isConfigurationError_of_overridden {values overrides : Entries} {e : LoadError}
    (herror : overridden values overrides = .error e) : e.isConfigurationError = true := by
  refine forall_error_foldlM (P := (·.isConfigurationError = true)) ?_ herror
  rintro values ⟨name, value⟩ e hstep
  dsimp only at hstep
  split at hstep
  next => cases hstep
  next =>
      cases hstep
      rfl

/-- Whether a document has some entries as its section.  What is missing on the way is empty. -/
def IsSection (entries found : Entries) : Prop :=
  entries.get? "tool" = none ∧ found = [] ∨
    ∃ tools : Entries, entries.get? "tool" = some (.table tools) ∧
      (tools.get? "mutascope" = none ∧ found = [] ∨ tools.get? "mutascope" = some (.table found))

theorem sectionAt_eq_ok_iff {entries found : Entries} :
    sectionAt sectionPath entries = .ok found ↔ IsSection entries found := by
  have hempty : Entries.get? [] "mutascope" = none := rfl
  unfold sectionPath IsSection sectionAt
  split
  next hmissing => simp [hmissing, sectionAt, hempty, eq_comm]
  next tools htools =>
      unfold sectionAt
      split
      next hmissing => simp [htools, hmissing, sectionAt, eq_comm]
      next settings hsettings => simp [htools, hsettings, sectionAt, eq_comm]
      next other hother hsettings => simpa [htools, hsettings] using hother found
  next other hother htools => simpa [htools] using fun tools htable => (hother tools htable).elim

theorem eq_notTable_of_sectionAt {names : Toml.Key} {entries : Entries} {e : LoadError}
    (herror : sectionAt names entries = .error e) : e = .notTable := by
  induction names generalizing entries with
  | nil => cases herror
  | cons name names ih =>
      unfold sectionAt at herror
      split at herror
      · exact ih herror
      · exact ih herror
      · cases herror
        rfl

/-- Whether a file has some entries as its section.  A missing file has none. -/
def HasSection : Option (List UInt8) → Entries → Prop
  | none, found => found = []
  | some content, found => ∃ text entries, decode? content = some text ∧
      Toml.document text = .ok entries ∧ IsSection entries found

/-- The ways in which a configuration cannot be loaded that nobody has foreseen. -/
inductive FailsUnforeseen (processors : Option Int) : Option (List UInt8) → Entries → Prop
  | notText {content : List UInt8} {overrides : Entries} (htext : decode? content = none) :
      FailsUnforeseen processors (some content) overrides
  | longNumber {content : List UInt8} {text : List Char} {overrides : Entries}
      (htext : decode? content = some text) (hlong : Toml.document text = .error .longNumber) :
      FailsUnforeseen processors (some content) overrides
  | notTable {content : List UInt8} {text : List Char} {entries overrides : Entries}
      (htext : decode? content = some text) (hentries : Toml.document text = .ok entries)
      (hsection : ∀ found, ¬ IsSection entries found) :
      FailsUnforeseen processors (some content) overrides
  | notShown {content : Option (List UInt8)} {found named values overrides : Entries}
      {s : ShownSetting} (hfound : HasSection content found)
      (hnamed : sectionValues found = .ok named) (hvalues : overridden named overrides = .ok values)
      (hstuck : s.IsStuck processors values) : FailsUnforeseen processors content overrides

theorem readSection_eq_ok_iff {content : List UInt8} {found : Entries} :
    readSection content = .ok found ↔ HasSection (some content) found := by
  unfold readSection HasSection
  cases htext : decode? content with
  | none => simp [htext]
  | some text =>
      cases hentries : Toml.document text with
      | error e => cases e <;> simp [htext, hentries]
      | ok entries => simp [htext, hentries, sectionAt_eq_ok_iff]

/-- A file cannot be read in three of the ways that are not foreseen. -/
theorem failsUnforeseen_of_readSection {processors : Option Int} {content : List UInt8}
    {overrides : Entries} {e : LoadError} (herror : readSection content = .error e)
    (he : e.isConfigurationError = false) : FailsUnforeseen processors (some content) overrides := by
  unfold readSection at herror
  split at herror
  next htext => exact .notText htext
  next text htext =>
      split at herror
      next =>
          cases herror
          cases he
      next hlong => exact .longNumber htext hlong
      next entries hentries =>
          refine .notTable htext hentries fun found hsection => ?_
          rw [sectionAt_eq_ok_iff.mpr hsection] at herror
          cases herror

theorem readSection_of_notTable {content : List UInt8} {text : List Char} {entries : Entries}
    (htext : decode? content = some text) (hentries : Toml.document text = .ok entries)
    (hsection : ∀ found, ¬ IsSection entries found) : readSection content = .error .notTable := by
  rw [readSection, htext]
  dsimp only
  rw [hentries]
  dsimp only
  cases hfound : sectionAt sectionPath entries with
  | ok found => exact absurd (sectionAt_eq_ok_iff.mp hfound) (hsection found)
  | error e => rw [eq_notTable_of_sectionAt hfound]

section Load

variable {processors : Option Int} {content : Option (List UInt8)} {found overrides : Entries}

theorem load_of_hasSection (hfound : HasSection content found) :
    load processors content overrides = (do
      let values ← overridden (← sectionValues found) overrides
      (RunConfig.ofValues processors values).mapError .rejected) := by
  cases content with
  | none =>
      cases hfound
      rw [load]
      exact pure_bind [] _
  | some content =>
      rw [load, readSection_eq_ok_iff.mpr hfound]
      exact pure_bind found _

theorem load_of_readSection_error {content : List UInt8} {e : LoadError}
    (herror : readSection content = .error e) :
    load processors (some content) overrides = .error e := by
  rw [load, herror]
  rfl

/-- With its section found, a configuration is refused as it should be unless a setting is stuck. -/
theorem exists_unforeseen_of_section_iff (hfound : HasSection content found) :
    (∃ e, load processors content overrides = .error e ∧ e.isConfigurationError = false) ↔
      ∃ named values, sectionValues found = .ok named ∧ overridden named overrides = .ok values ∧
        ∃ s : ShownSetting, s.IsStuck processors values := by
  rw [load_of_hasSection hfound]
  constructor
  · rintro ⟨e, herror, he⟩
    rcases bind_eq_error_iff.mp herror with hnamed | ⟨named, hnamed, herror⟩
    · rw [isConfigurationError_of_sectionValues hnamed] at he
      cases he
    · rcases bind_eq_error_iff.mp herror with hvalues | ⟨values, hvalues, herror⟩
      · rw [isConfigurationError_of_overridden hvalues] at he
        cases he
      · obtain ⟨reason, hreason, rfl⟩ := mapError_eq_error_iff.mp herror
        have hlong : reason = .longNumber := by simpa [LoadError.isConfigurationError] using he
        have hnames := hasSettingNames_overridden (hasSettingNames_sectionValues hnamed) hvalues
        rw [hlong, RunConfig.ofValues_eq_longNumber_iff hnames] at hreason
        exact ⟨named, values, hnamed, hvalues, hreason⟩
  · rintro ⟨named, values, hnamed, hvalues, hstuck⟩
    have hnames := hasSettingNames_overridden (hasSettingNames_sectionValues hnamed) hvalues
    have hreason := (RunConfig.ofValues_eq_longNumber_iff hnames).mpr hstuck
    exact ⟨.rejected .longNumber, bind_eq_error_iff.mpr (.inr ⟨named, hnamed,
      bind_eq_error_iff.mpr (.inr ⟨values, hvalues, mapError_eq_error_iff.mpr ⟨_, hreason, rfl⟩⟩)⟩),
      rfl⟩

/-- Loading fails with an error that does not tell what is wrong with the configuration in just those
ways. -/
theorem exists_unforeseen_iff :
    (∃ e, load processors content overrides = .error e ∧ e.isConfigurationError = false) ↔
      FailsUnforeseen processors content overrides := by
  constructor
  · rintro ⟨e, herror, he⟩
    by_cases hsection : ∃ found, HasSection content found
    · obtain ⟨found, hfound⟩ := hsection
      obtain ⟨named, values, hnamed, hvalues, s, hstuck⟩ :=
        (exists_unforeseen_of_section_iff hfound).mp ⟨e, herror, he⟩
      exact .notShown hfound hnamed hvalues hstuck
    · cases content with
      | none => exact absurd ⟨[], rfl⟩ hsection
      | some content =>
          rcases bind_eq_error_iff.mp herror with hread | ⟨found, hread, -⟩
          · exact failsUnforeseen_of_readSection hread he
          · exact absurd ⟨found, readSection_eq_ok_iff.mp hread⟩ hsection
  · intro hfails
    cases hfails with
    | notText htext =>
        exact ⟨.notText, load_of_readSection_error (by rw [readSection, htext]), rfl⟩
    | longNumber htext hlong =>
        refine ⟨.longNumber, load_of_readSection_error ?_, rfl⟩
        rw [readSection, htext]
        dsimp only
        rw [hlong]
    | notTable htext hentries hsection =>
        have hread := readSection_of_notTable htext hentries hsection
        exact ⟨.notTable, load_of_readSection_error hread, rfl⟩
    | notShown hfound hnamed hvalues hstuck =>
        exact (exists_unforeseen_of_section_iff hfound).mpr ⟨_, _, hnamed, hvalues, _, hstuck⟩

end Load

/-- Loading fails with an error about the configuration, if it fails at all, just when it does not fail
in one of these ways.  A number in a file can only be too long if there is such a run of digits. -/
theorem load_fails_as_foreseen_iff (processors : Option Int) (content : Option (List UInt8))
    (overrides : Entries) :
    ((∀ e, load processors content overrides = .error e → e.isConfigurationError = true) ↔
      ¬ FailsUnforeseen processors content overrides) ∧
    ∀ text, Toml.document text = .error .longNumber → Toml.HasLongNumber text := by
  refine ⟨?_, fun text => Toml.hasLongNumber_of_document⟩
  rw [← exists_unforeseen_iff, not_exists]
  simp only [not_and, Bool.not_eq_false]

/-- A file may have a number in place of the table that holds the sections of all tools. -/
theorem failsUnforeseen_of_number (processors : Option Int) (overrides : Entries) :
    FailsUnforeseen processors (some (Text.Utf8.encode "tool = 1\n".toList)) overrides := by
  have htext : decode? (Text.Utf8.encode "tool = 1\n".toList) = some "tool = 1\n".toList := by
    decide
  have hentries : Toml.document "tool = 1\n".toList = .ok [("tool", .whole 1)] := by cbv
  refine .notTable htext hentries ?_
  rintro found (⟨hmissing, -⟩ | ⟨tools, htools, -⟩)
  · simp [Entries.get?] at hmissing
  · simp [Entries.get?, Value.whole] at htools

/-- So it is not the case that loading ends with a configuration or says what is wrong with it. -/
theorem loading_may_fail_unforeseen :
    ¬ ∀ (processors : Option Int) (content : Option (List UInt8)) (overrides : Entries),
      (∃ c, load processors content overrides = .ok c) ∨
        ∃ e, load processors content overrides = .error e ∧ e.isConfigurationError = true := by
  intro hforeseen
  obtain ⟨e, he, hkind⟩ := exists_unforeseen_iff.mpr (failsUnforeseen_of_number none [])
  rcases hforeseen none (some (Text.Utf8.encode "tool = 1\n".toList)) [] with
    ⟨c, hc⟩ | ⟨e', he', hkind'⟩
  · exact nomatch hc.symm.trans he
  · rw [Except.error.inj (he'.symm.trans he), hkind] at hkind'
    exact nomatch hkind'

end MutationTesting.Settings
