import Mathlib.Data.List.Induction
import Mathlib.Data.Nat.Digits.Defs
import MutationTesting.Proofs.Testing.FailureCount

/-!
# The last summary of an output decides

An output is cut into lines at line feeds and nowhere else.  The number of failures is the one
written on the last line that is a summary, in digits of whatever script; without any summary it is
one.  Only a number with too many digits is not read.
-/

namespace MutationTesting.Testing

open MutationTesting.Text

/-- Whether a text consists of some lines with a line feed between any two of them. -/
structure AreLines (lines : List (List Char)) (text : List Char) : Prop where
  nonempty : lines ≠ []
  joined : joinWith '\n' lines = text
  unbroken : ∀ line ∈ lines, '\n' ∉ line

/-- Whether the last one of some lines that is a summary has the given digits for the number of
failures. -/
def IsLastSummary (failures : List Char) (lines : List (List Char)) : Prop :=
  ∃ earlier line later, lines = earlier ++ line :: later ∧ IsSummary failures line ∧
    ∀ other ∈ later, ∀ digits, ¬ IsSummary digits other

/-- Whether a number is the one written in some digits, those of least value at the end. -/
def IsWritten (digits : List Char) (n : Nat) : Prop :=
  ∃ values : List Nat, digits.map digitValue? = values.map some ∧ (∀ v ∈ values, v < 10) ∧
    n = Nat.ofDigits 10 values.reverse

theorem areLines_splitAt (text : List Char) : AreLines (splitAt '\n' text) text := by
  constructor
  · exact splitAt_ne_nil '\n' text
  · exact joinWith_splitAt '\n' text
  · exact fun line => not_mem_of_mem_splitAt

/-- A text is cut in one way only. -/
theorem AreLines.eq_splitAt {lines : List (List Char)} {text : List Char}
    (hlines : AreLines lines text) : lines = splitAt '\n' text := by
  obtain ⟨hnonempty, rfl, hunbroken⟩ := hlines
  induction lines with
  | nil => exact absurd rfl hnonempty
  | cons line later ih =>
      have hline : splitAt '\n' line = [line] :=
        splitAt_of_not_mem (hunbroken line List.mem_cons_self)
      cases later with
      | nil => exact hline.symm
      | cons next others =>
          have hlater : next :: others = splitAt '\n' (joinWith '\n' (next :: others)) :=
            ih (List.cons_ne_nil next others) (List.forall_mem_cons.mp hunbroken).2
          rw [joinWith, splitAt_append, hline, ← hlater, List.singleton_append]
          exact List.cons_ne_nil next others

theorem failureDigits?_eq_none_iff {line : List Char} :
    failureDigits? line = none ↔ ∀ digits, ¬ IsSummary digits line := by
  rw [Option.eq_none_iff_forall_ne_some]
  exact forall_congr' fun digits => not_congr failureDigits?_eq_some_iff

theorem getLast?_filterMap_eq_some_iff {lines : List (List Char)} {failures : List Char} :
    (lines.filterMap failureDigits?).getLast? = some failures ↔ IsLastSummary failures lines := by
  constructor
  · intro hlast
    obtain ⟨others, hothers⟩ := List.getLast?_eq_some_iff.mp hlast
    obtain ⟨earlier, rest, rfl, -, hrest⟩ := List.filterMap_eq_append_iff.mp hothers
    obtain ⟨skipped, line, later, rfl, -, hline, hlater⟩ := List.filterMap_eq_cons_iff.mp hrest
    refine ⟨earlier ++ skipped, line, later, by rw [List.append_assoc],
      failureDigits?_eq_some_iff.mp hline, fun other hother => ?_⟩
    exact failureDigits?_eq_none_iff.mp (List.filterMap_eq_nil_iff.mp hlater other hother)
  · intro ⟨earlier, line, later, hlines, hline, hlater⟩
    have hnone : later.filterMap failureDigits? = [] :=
      List.filterMap_eq_nil_iff.mpr fun other hother =>
        failureDigits?_eq_none_iff.mpr (hlater other hother)
    rw [hlines, List.filterMap_append, List.filterMap_cons, failureDigits?_eq_some_iff.mpr hline,
      hnone]
    exact List.getLast?_concat

theorem digitValue?_lt {c : Char} {v : Nat} (hv : digitValue? c = some v) : v < 10 := by
  rw [digitValue?] at hv
  split at hv
  next hdigit =>
      cases hv
      have hc : c ≤ '9' := by
        rw [isAsciiDigit, Bool.and_eq_true] at hdigit
        exact of_decide_eq_true hdigit.2
      have hcode : c.toNat ≤ 57 := UInt32.le_iff_toNat_le.mp hc
      omega
  next =>
      split at hv
      next => cases hv
      next =>
          obtain ⟨range, -, rfl⟩ := Option.map_eq_some_iff.mp hv
          exact Nat.mod_lt _ (by decide)

/-- Digits have the values of which the number they are read as consists. -/
theorem isWritten_numeralValue {digits : List Char} (hdigits : ∀ c ∈ digits, isDigit c = true) :
    IsWritten digits (numeralValue digits) := by
  induction digits using List.reverseRecOn with
  | nil => exact ⟨[], rfl, nofun, rfl⟩
  | append_singleton digits c ih =>
      obtain ⟨values, hvalues, hsmall, hvalue⟩ :=
        ih fun c hc => hdigits c (List.mem_append_left _ hc)
      obtain ⟨v, hv⟩ := Option.isSome_iff_exists.mp (hdigits c (by simp))
      refine ⟨values ++ [v], ?_, ?_, ?_⟩
      · rw [List.map_append, List.map_append, hvalues, List.map_singleton, hv, List.map_singleton]
      · intro other hother
        cases List.mem_append.mp hother with
        | inl hearlier => exact hsmall other hearlier
        | inr hlast =>
            rw [List.mem_singleton.mp hlast]
            exact digitValue?_lt hv
      · calc
          numeralValue (digits ++ [c]) = 10 * numeralValue digits + v := by
            rw [numeralValue, List.foldl_concat, hv, Option.getD_some, numeralValue]
          _ = v + 10 * Nat.ofDigits 10 values.reverse := by rw [hvalue, Nat.add_comm]
          _ = Nat.ofDigits 10 (values ++ [v]).reverse := by
            rw [List.reverse_concat, Nat.ofDigits_cons]

theorem IsLastSummary.isNumeral {failures : List Char} {lines : List (List Char)}
    (hlast : IsLastSummary failures lines) : IsNumeral failures := by
  obtain ⟨-, line, -, -, hline, -⟩ := hlast
  obtain ⟨tests, testWord, failureWord, ending, -, -, -, hfailures, -, -⟩ := hline
  exact hfailures

theorem countFailures_of_isLastSummary {output : String} {failures : List Char}
    (hlast : IsLastSummary failures (splitAt '\n' output.toList)) :
    countFailures output = if failures.length ≤ Decimal.maxDigits then
      .ok (numeralValue failures) else .error ⟨failures⟩ := by
  rw [countFailures, getLast?_filterMap_eq_some_iff.mpr hlast]

/-- The failures of an output are those of the last of its lines that is a summary, and without any
summary there is one. -/
theorem last_summary_is_counted (output : String) :
    (∃ lines, AreLines lines output.toList) ∧ ∀ lines, AreLines lines output.toList →
      (∀ failures, IsLastSummary failures lines → failures.length ≤ Decimal.maxDigits →
        ∃ n, IsWritten failures n ∧ countFailures output = .ok n) ∧
      (∀ failures, IsLastSummary failures lines → Decimal.maxDigits < failures.length →
        countFailures output = .error ⟨failures⟩) ∧
      ((∀ line ∈ lines, ∀ failures, ¬ IsSummary failures line) → countFailures output = .ok 1) := by
  refine ⟨⟨_, areLines_splitAt output.toList⟩, fun lines hlines => ?_⟩
  obtain rfl : lines = splitAt '\n' output.toList := hlines.eq_splitAt
  refine ⟨?_, ?_, ?_⟩
  · intro failures hlast hshort
    refine ⟨numeralValue failures, isWritten_numeralValue hlast.isNumeral.2, ?_⟩
    rw [countFailures_of_isLastSummary hlast, if_pos hshort]
  · intro failures hlast hlong
    rw [countFailures_of_isLastSummary hlast, if_neg (Nat.not_le.mpr hlong)]
  · intro hnone
    have hempty : (splitAt '\n' output.toList).filterMap failureDigits? = [] :=
      List.filterMap_eq_nil_iff.mpr fun line hline =>
        failureDigits?_eq_none_iff.mpr (hnone line hline)
    rw [countFailures, hempty]
    rfl

/-- A summary before a carriage return counts, one in the middle of a line does not, and a line
separator other than the line feed ends no line. -/
example : countFailures "1 test, ٤٢ failures\r\n> 2 tests, 1 failure\n3 tests, 0 failures\x0b" =
    .ok 42 := by decide

end MutationTesting.Testing
