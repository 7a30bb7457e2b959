import Mathlib.Data.List.Basic
import Mathlib.Tactic.Common
import MutationTesting.Proofs.Number.Digits
import MutationTesting.Proofs.Text.Split
import MutationTesting.Testing.Outcome
import MutationTesting.Testing.Tally

/-!
# The failures that are reported are those that are counted

A summary line is a number of tests and a number of failures, each with its word in the singular or
the plural, and nothing else but a carriage return at the end.  A line is read as a summary exactly if
it has this form.

A test process counts the reports of failures and writes their number in a summary line.  Whatever it
writes before, and whatever it writes afterwards that is no such line, this number is read back from its
output.  So a mutant is killed exactly if something failed.
-/

namespace MutationTesting.Testing

open MutationTesting.Text

/-- Digits of any script, at least one. -/
def IsNumeral (digits : List Char) : Prop := digits ≠ [] ∧ ∀ c ∈ digits, isDigit c = true

/-- A word, or its plural. -/
def IsNoun (singular : String) (word : List Char) : Prop :=
  word = singular.toList ∨ word = singular.toList ++ ['s']

/-- Whether a line is a summary with the given digits for the number of failures. -/
def IsSummary (failures line : List Char) : Prop :=
  ∃ tests testWord failureWord ending,
    line = tests ++ testWord ++ ", ".toList ++ failures ++ failureWord ++ ending ∧
      IsNumeral tests ∧ IsNoun " test" testWord ∧ IsNumeral failures ∧
      IsNoun " failure" failureWord ∧ (ending = [] ∨ ending = ['\r'])

/-- Whether a text goes on with a character other than a digit, if it goes on at all. -/
def StartsNoDigit (rest : List Char) : Prop := ∀ c, rest.head? = some c → isDigit c = false

theorem digitsOf?_append {digits rest : List Char} (hdigits : IsNumeral digits)
    (hrest : StartsNoDigit rest) : digitsOf? (digits ++ rest) = some (digits, rest) := by
  have htail : rest.takeWhile isDigit = [] ∧ rest.dropWhile isDigit = rest := by
    cases rest with
    | nil => exact ⟨rfl, rfl⟩
    | cons c rest =>
        have hc := hrest c rfl
        simp [hc]
  have htake : (digits ++ rest).takeWhile isDigit = digits := by
    rw [List.takeWhile_append_of_pos hdigits.2, htail.1, List.append_nil]
  have hdrop : (digits ++ rest).dropWhile isDigit = rest := by
    rw [List.dropWhile_append_of_pos hdigits.2, htail.2]
  rw [digitsOf?, htake, hdrop]
  cases digits with
  | nil => exact absurd rfl hdigits.1
  | cons c digits => rfl

theorem eq_append_of_digitsOf? {cs digits rest : List Char}
    (hdigits : digitsOf? cs = some (digits, rest)) : cs = digits ++ rest ∧ IsNumeral digits := by
  rw [digitsOf?] at hdigits
  split at hdigits
  · cases hdigits
  next hnonempty =>
      cases hdigits
      exact ⟨List.takeWhile_append_dropWhile.symm, hnonempty,
        List.all_eq_true.mp List.all_takeWhile⟩

theorem noun_append {singular : String} {word rest : List Char} (hword : IsNoun singular word)
    (hrest : rest.head? ≠ some 's') : noun singular (word ++ rest) = some rest := by
  have hdrop : ∀ after, (singular.toList ++ after).drop singular.length = after := fun after => by
    rw [← String.length_toList, List.drop_left]
  rcases hword with rfl | rfl
  · rw [noun, if_pos (by simp), hdrop]
    cases rest with
    | nil => rfl
    | cons c rest =>
        have hc : c ≠ 's' := fun heq => hrest (congrArg some heq)
        split
        next heq => exact absurd (List.cons.inj heq).1 hc
        next => rfl
  · rw [List.append_assoc, noun, if_pos (by simp), hdrop]
    rfl

theorem eq_append_of_noun {singular : String} {cs rest : List Char}
    (hnoun : noun singular cs = some rest) : ∃ word, cs = word ++ rest ∧ IsNoun singular word := by
  rw [noun] at hnoun
  split at hnoun
  next hprefix =>
      obtain ⟨after, rfl⟩ := List.isPrefixOf_iff_prefix.mp hprefix
      rw [← String.length_toList, List.drop_left] at hnoun
      split at hnoun
      · cases hnoun
        exact ⟨singular.toList ++ ['s'], by simp, Or.inr rfl⟩
      · cases hnoun
        exact ⟨singular.toList, rfl, Or.inl rfl⟩
  next => cases hnoun

theorem startsNoDigit_noun {first : Char} {rest word after : List Char}
    (hword : IsNoun (String.ofList (first :: rest)) word) (hfirst : isDigit first = false) :
    StartsNoDigit (word ++ after) := by
  rw [IsNoun, String.toList_ofList] at hword
  rcases hword with rfl | rfl
  all_goals
    intro c hc
    cases hc
    exact hfirst

/-- A line is read part by part: a number, a word, a comma, a number, a word, and the end. -/
theorem failureDigits?_eq_some_iff_parts {line failures : List Char} :
    failureDigits? line = some failures ↔
      ∃ tests rest middle rest' ending, digitsOf? line = some (tests, rest) ∧
        noun " test" rest = some (", ".toList ++ middle) ∧
        digitsOf? middle = some (failures, rest') ∧ noun " failure" rest' = some ending ∧
        (ending = [] ∨ ending = ['\r']) := by
  constructor
  · intro hline
    rw [failureDigits?] at hline
    obtain ⟨⟨tests, rest⟩, htests, hline⟩ := Option.bind_eq_some_iff.mp hline
    obtain ⟨comma, hcomma, hline⟩ := Option.bind_eq_some_iff.mp hline
    dsimp only at hline
    split at hline
    next hprefix =>
        obtain ⟨middle, rfl⟩ := List.isPrefixOf_iff_prefix.mp hprefix
        obtain ⟨after, hafter, hnumber⟩ := Option.bind_eq_some_iff.mp hline
        obtain rfl : after = middle := by simpa using hafter.symm
        obtain ⟨⟨digits, rest'⟩, hdigits, hline⟩ := Option.bind_eq_some_iff.mp hnumber
        obtain ⟨ending, hending, hline⟩ := Option.bind_eq_some_iff.mp hline
        split at hline
        next hend =>
            cases hline
            exact ⟨tests, rest, after, rest', ending, htests, hcomma, hdigits, hending, hend⟩
        next => cases hline
    next => cases hline
  · rintro ⟨tests, rest, middle, rest', ending, htests, hcomma, hdigits, hending, hend⟩
    rw [failureDigits?, htests]
    refine Option.bind_eq_some_iff.mpr ⟨_, rfl, Option.bind_eq_some_iff.mpr ⟨_, hcomma, ?_⟩⟩
    dsimp only
    rw [if_pos (by simp)]
    refine Option.bind_eq_some_iff.mpr ⟨middle, by simp, ?_⟩
    refine Option.bind_eq_some_iff.mpr ⟨_, hdigits, Option.bind_eq_some_iff.mpr ⟨_, hending, ?_⟩⟩
    exact if_pos hend

/-- A line is read as a summary exactly if it has the form of one. -/
theorem failureDigits?_eq_some_iff {line failures : List Char} :
    failureDigits? line = some failures ↔ IsSummary failures line := by
  rw [failureDigits?_eq_some_iff_parts]
  constructor
  · rintro ⟨tests, rest, middle, rest', ending, htests, hcomma, hdigits, hending, hend⟩
    obtain ⟨rfl, htestNumber⟩ := eq_append_of_digitsOf? htests
    obtain ⟨testWord, rfl, htestWord⟩ := eq_append_of_noun hcomma
    obtain ⟨rfl, hfailureNumber⟩ := eq_append_of_digitsOf? hdigits
    obtain ⟨failureWord, rfl, hfailureWord⟩ := eq_append_of_noun hending
    exact ⟨tests, testWord, failureWord, ending, by simp only [List.append_assoc], htestNumber,
      htestWord, hfailureNumber, hfailureWord, hend⟩
  · rintro ⟨tests, testWord, failureWord, ending, rfl, htests, htestWord, hfailures,
      hfailureWord, hend⟩
    have hlast : ending.head? ≠ some 's' := by
      rcases hend with rfl | rfl <;> decide
    refine ⟨tests, testWord ++ (", ".toList ++ (failures ++ (failureWord ++ ending))),
      failures ++ (failureWord ++ ending), failureWord ++ ending, ending, ?_, ?_, ?_, ?_, hend⟩
    · simp only [List.append_assoc]
      exact digitsOf?_append htests (startsNoDigit_noun htestWord (by decide))
    · exact noun_append htestWord (by simp)
    · exact digitsOf?_append hfailures (startsNoDigit_noun hfailureWord (by decide))
    · exact noun_append hfailureWord hlast

/-- Whether a report is of a failure: in a phase of a test, or while collecting tests. -/
def TestEvent.isFailure : TestEvent → Bool
  | .test _ phase failed => failed && decide (phase ∈ [Phase.setup, .call, .teardown])
  | .collection _ failed => failed

namespace Tally

theorem failures_record (t : Tally) (e : TestEvent) :
    (t.record e).failures = t.failures + if e.isFailure then 1 else 0 := by
  rcases e with ⟨name, phase, failed⟩ | ⟨name, failed⟩
  · cases phase <;> cases failed <;>
      simp [record, failures, TestEvent.isFailure, Nat.add_right_comm, Nat.add_assoc]
  · cases failed <;> simp [record, failures, TestEvent.isFailure, Nat.add_assoc]

theorem failures_foldl (events : List TestEvent) (t : Tally) :
    (events.foldl record t).failures = t.failures + events.countP TestEvent.isFailure := by
  induction events generalizing t with
  | nil => rfl
  | cons e rest ih =>
      rw [List.foldl_cons, ih, failures_record, List.countP_cons, Nat.add_assoc, Nat.add_comm]
      omega

theorem failures_ofEvents (events : List TestEvent) :
    (ofEvents events).failures = events.countP TestEvent.isFailure := by
  rw [ofEvents, failures_foldl]
  exact Nat.zero_add _

end Tally

theorem digitValue?_digitChar {d : Nat} (hd : d < 10) :
    digitValue? (Decimal.digitChar d) = some d := by
  revert d
  decide

theorem isNumeral_digits (n : Nat) : IsNumeral (Decimal.digits n) := by
  refine ⟨Decimal.digits_ne_nil n, fun c hc => ?_⟩
  obtain ⟨d, hd, rfl⟩ := Decimal.exists_digit_of_mem_digits hc
  rw [isDigit, digitValue?_digitChar hd, Option.isSome_some]

/-- A number can be read from its digits. -/
theorem numeralValue_digits (n : Nat) : numeralValue (Decimal.digits n) = n := by
  have hvalue : ∀ value, ∀ c ∈ Decimal.digits n,
      10 * value + (digitValue? c).getD 0 = 10 * value + (c.toNat - 48) := by
    intro value c hc
    obtain ⟨d, hd, rfl⟩ := Decimal.exists_digit_of_mem_digits hc
    rw [digitValue?_digitChar hd, Decimal.toNat_digitChar hd, Option.getD_some]
  rw [numeralValue, List.foldl_ext _ _ _ hvalue]
  exact Decimal.toNat_digits n

theorem isSummary_summaryLine (tests failures : Nat) :
    IsSummary (Decimal.digits failures) (summaryLine tests failures).toList := by
  let word := if failures = 1 then " failure" else " failures"
  have hword : IsNoun " failure" word.toList := by
    by_cases hone : failures = 1
    · exact Or.inl (by simp [word, hone])
    · exact Or.inr (by simp [word, hone])
  refine ⟨Decimal.digits tests, " tests".toList, word.toList, [], ?_, isNumeral_digits tests,
    Or.inr (by simp), isNumeral_digits failures, hword, Or.inl rfl⟩
  simp [summaryLine, Decimal.ofNat, word]

/-- A summary stands on one line. -/
theorem not_mem_of_isSummary {failures line : List Char} (hline : IsSummary failures line) :
    '\n' ∉ line := by
  obtain ⟨tests, testWord, failureWord, ending, rfl, htests, htestWord, hfailures, hfailureWord,
    hending⟩ := hline
  have hnumeral : ∀ {digits : List Char}, IsNumeral digits → '\n' ∉ digits := by
    intro digits hdigits hmem
    exact absurd (hdigits.2 _ hmem) (by decide)
  have htest : '\n' ∉ testWord := by rcases htestWord with rfl | rfl <;> decide
  have hfailure : '\n' ∉ failureWord := by rcases hfailureWord with rfl | rfl <;> decide
  have hend : '\n' ∉ ending := by rcases hending with rfl | rfl <;> decide
  simp only [List.mem_append, not_or]
  exact ⟨⟨⟨⟨⟨hnumeral htests, htest⟩, by decide⟩, hnumeral hfailures⟩, hfailure⟩, hend⟩

/-- Whether a text ends where a line ends. -/
def EndsLine (text : List Char) : Prop := text = [] ∨ ∃ start, text = start ++ ['\n']

/-- A line between two texts, the first of which ends a line, is one of the lines of the whole. -/
theorem exists_splitAt_line {before line : List Char} (hbefore : EndsLine before)
    (hline : '\n' ∉ line) (after : List Char) :
    ∃ earlier, splitAt '\n' (before ++ line ++ '\n' :: after) =
      earlier ++ line :: splitAt '\n' after := by
  have hrest : splitAt '\n' (line ++ '\n' :: after) = line :: splitAt '\n' after := by
    rw [splitAt_append, splitAt_of_not_mem hline, List.singleton_append]
  rcases hbefore with rfl | ⟨start, rfl⟩
  · exact ⟨[], hrest⟩
  · refine ⟨splitAt '\n' start, ?_⟩
    rw [← hrest, ← splitAt_append]
    simp

/-- The last summary of an output counts. -/
theorem getLast?_summaries {before line after failures : List Char} (hbefore : EndsLine before)
    (hline : IsSummary failures line)
    (hafter : ∀ later ∈ splitAt '\n' after, ∀ digits, ¬ IsSummary digits later) :
    ((splitAt '\n' (before ++ line ++ '\n' :: after)).filterMap failureDigits?).getLast? =
      some failures := by
  obtain ⟨earlier, hlines⟩ := exists_splitAt_line hbefore (not_mem_of_isSummary hline) after
  have hnone : (splitAt '\n' after).filterMap failureDigits? = [] := by
    rw [List.filterMap_eq_nil_iff]
    intro later hlater
    rw [Option.eq_none_iff_forall_ne_some]
    exact fun digits hdigits => hafter later hlater digits (failureDigits?_eq_some_iff.mp hdigits)
  rw [hlines, List.filterMap_append, List.filterMap_cons, failureDigits?_eq_some_iff.mpr hline,
    hnone]
  exact List.getLast?_concat

/-- The number that an output is read to report is the number of failures, as long as no other
summary follows the one that the process wrote of its own.  A mutant is killed exactly if there was a
failure. -/
theorem reported_failures_are_counted {events : List TestEvent} {before after : String}
    (hbefore : EndsLine before.toList)
    (hafter : ∀ line ∈ splitAt '\n' after.toList, ∀ failures, ¬ IsSummary failures line)
    (hcount : events.countP TestEvent.isFailure < 10 ^ Decimal.maxDigits) :
    ∃ failures, countFailures (before ++ (Tally.ofEvents events).summary ++ "\n" ++ after) =
        .ok failures ∧
      failures = events.countP TestEvent.isFailure ∧
      (Classification.ofFailures failures = .killed ↔ ∃ e ∈ events, e.isFailure = true) := by
  refine ⟨events.countP TestEvent.isFailure, ?_, rfl, ?_⟩
  · have hlast := getLast?_summaries hbefore
      (isSummary_summaryLine (Tally.ofEvents events).total (Tally.ofEvents events).failures) hafter
    have hlength : (Decimal.digits (events.countP TestEvent.isFailure)).length ≤
        Decimal.maxDigits := Decimal.length_digits_le (by decide) hcount
    have htext : (before ++ (Tally.ofEvents events).summary ++ "\n" ++ after).toList =
        before.toList ++ (Tally.ofEvents events).summary.toList ++ '\n' :: after.toList := by
      simp
    rw [countFailures, htext, Tally.summary, hlast, Tally.failures_ofEvents]
    dsimp only
    rw [if_pos hlength, numeralValue_digits]
  · rw [Classification.ofFailures, ← List.countP_pos_iff]
    split
    next hpos => exact iff_of_true rfl hpos
    next hzero => exact iff_of_false (by decide) hzero

/-- A failing setup and a failing collection between two passing calls, after a test that printed a
summary of its own and before a line that quotes one. -/
theorem two_reported_failures_are_counted :
    let events : List TestEvent := [.test "a" .setup true, .test "b" .call false,
      .collection "c.py" true, .test "d" .call false, .test "d" (.other "x") true]
    let before := "9 tests, 7 failures\n"
    let after := "> 1 test, 1 failure\n"
    EndsLine before.toList ∧
      (∀ line ∈ splitAt '\n' after.toList, ∀ failures, ¬ IsSummary failures line) ∧
      events.countP TestEvent.isFailure < 10 ^ Decimal.maxDigits ∧
      (Tally.ofEvents events).summary = "2 tests, 2 failures" ∧
      ∃ failures, countFailures (before ++ (Tally.ofEvents events).summary ++ "\n" ++ after) =
          .ok failures ∧ failures = 2 ∧ Classification.ofFailures failures = .killed := by
  intro events before after
  have hbefore : EndsLine before.toList := Or.inr ⟨"9 tests, 7 failures".toList, by decide⟩
  have hafter : ∀ line ∈ splitAt '\n' after.toList, ∀ failures, ¬ IsSummary failures line := by
    intro line hline failures hsummary
    have hnone : ∀ line ∈ splitAt '\n' after.toList, failureDigits? line = none := by decide
    rw [← failureDigits?_eq_some_iff, hnone line hline] at hsummary
    cases hsummary
  have hcount : events.countP TestEvent.isFailure < 10 ^ Decimal.maxDigits :=
    Nat.lt_of_lt_of_le (by decide : _ < 10) (Nat.le_self_pow (by decide) 10)
  obtain ⟨failures, hfailures, hsame, hkilled⟩ :=
    reported_failures_are_counted hbefore hafter hcount
  refine ⟨hbefore, hafter, hcount, by decide, failures, hfailures, hsame, hkilled.mpr ?_⟩
  exact ⟨_, List.mem_cons_self, rfl⟩

end MutationTesting.Testing
