import Mathlib.Algebra.Order.Field.Rat
import Mathlib.Order.WithBot
import Mathlib.Tactic.NormNum
import MutationTesting.Number.Amount
import MutationTesting.Proofs.Optimizer.Meaning

/-!
# Comparisons of amounts

An amount has a value on the line of the rational numbers with its two ends.  An undefined number has
none, and no comparison with one is true.  So an amount that is not below a bound is at least as great
as the bound, or it is undefined.
-/

namespace MutationTesting

/-- A rational number or one of the two ends of their line. -/
abbrev ExtendedRational := WithBot (WithTop ℚ)

namespace ExtendedRational

def ofRat (q : ℚ) : ExtendedRational := WithBot.some (WithTop.some q)

variable {p q : ℚ}

@[simp]
theorem ofRat_lt_ofRat : ofRat p < ofRat q ↔ p < q := by simp [ofRat]

@[simp]
theorem ofRat_le_ofRat : ofRat p ≤ ofRat q ↔ p ≤ q := by simp [ofRat]

@[simp]
theorem ofRat_inj : ofRat p = ofRat q ↔ p = q := by simp [ofRat]

@[simp]
theorem bot_lt_ofRat : ⊥ < ofRat q := WithBot.bot_lt_coe _

@[simp]
theorem ofRat_lt_top : ofRat q < ⊤ := WithBot.coe_lt_coe.mpr (WithTop.coe_lt_top q)

theorem ofRat_ne_bot : ofRat q ≠ ⊥ := bot_lt_ofRat.ne'

theorem ofRat_ne_top : ofRat q ≠ ⊤ := ofRat_lt_top.ne

end ExtendedRational

open ExtendedRational (ofRat)

namespace Binary64

/-- The value of a number on the line with its ends. -/
def value? : Binary64 → Option ExtendedRational
  | .infinite negative => some (if negative then ⊥ else ⊤)
  | x => x.rational?.map ofRat

@[simp]
theorem value?_undefined : undefined.value? = none := rfl

@[simp]
theorem value?_infinite (negative : Bool) :
    (infinite negative).value? = some (if negative then ⊥ else ⊤) := rfl

theorem magnitude_pos (significand : Nat) (exponent : Int) :
    0 < (magnitude significand exponent).2 := by
  rw [magnitude]
  split
  · exact Nat.pow_pos (by decide)
  · exact Nat.one_pos

theorem magnitude_eq (significand : Nat) (exponent : Int) :
    ((magnitude significand exponent).1 : ℚ) / (magnitude significand exponent).2 =
      significand * (2 : ℚ) ^ exponent := by
  rw [magnitude]
  split
  next hnegative =>
      obtain ⟨n, rfl⟩ : ∃ n : Nat, exponent = -(n : Int) := ⟨(-exponent).toNat, by omega⟩
      simp [div_eq_mul_inv]
  next hnonneg =>
      obtain ⟨n, rfl⟩ : ∃ n : Nat, exponent = n := ⟨exponent.toNat, by omega⟩
      simp

theorem signedInt_mul (negative : Bool) (m n : Nat) :
    signedInt negative (m * n) = signedInt negative m * n := by
  cases negative <;> simp [signedInt]

/-- The value of a finite number is the ratio that comparisons are made with. -/
@[simp]
theorem value?_finite (negative : Bool) (significand : Nat) (exponent : Int) :
    (finite negative significand exponent).value? =
      some (ofRat (signedInt negative (magnitude significand exponent).1 /
        (magnitude significand exponent).2)) := by
  have hratio := magnitude_eq significand exponent
  rw [value?, rational?, Option.map_some, Option.some_inj, ExtendedRational.ofRat_inj]
  · cases negative
    · simp [signedInt, hratio]
    · simp [signedInt, neg_div, hratio]
  · simp

/-- Numbers are in order exactly if they have values that are. -/
theorem lt_iff (x y : Binary64) :
    x.lt y = true ↔ ∃ u v, x.value? = some u ∧ y.value? = some v ∧ u < v := by
  cases x with
  | undefined => simp [lt]
  | infinite a =>
      cases y with
      | undefined => simp [lt]
      | infinite b => cases a <;> cases b <;> simp [lt]
      | finite b n f => cases a <;> simp [lt]
  | finite a m e =>
      cases y with
      | undefined => simp [lt]
      | infinite b => cases b <;> simp [lt]
      | finite b n f =>
          have hm : (0 : ℚ) < (magnitude m e).2 := by exact_mod_cast magnitude_pos m e
          have hn : (0 : ℚ) < (magnitude n f).2 := by exact_mod_cast magnitude_pos n f
          simp only [lt, decide_eq_true_eq, value?_finite, Option.some.injEq, exists_and_left,
            exists_eq_left', ExtendedRational.ofRat_lt_ofRat, signedInt_mul]
          rw [div_lt_div_iff₀ hm hn]
          norm_cast

theorem value?_eq_none_iff {x : Binary64} : x.value? = none ↔ x = undefined := by
  cases x <;> simp

theorem value?_zero : zero.value? = some (ofRat 0) := by
  simp [zero, value?, rational?]

theorem value?_one : one.value? = some (ofRat 1) := by
  have hone : one = finite false (2 ^ 52) (-52) := by decide
  have hpower : ((2 ^ 52 : Nat) : ℚ) * (2 : ℚ) ^ (-52 : Int) = 1 := by norm_num [zpow_neg]
  rw [hone, value?, rational?, Option.map_some, if_neg Bool.false_ne_true, one_mul, hpower]
  simp

theorem value?_finite_eq_zero_iff {negative : Bool} {significand : Nat} {exponent : Int} :
    (finite negative significand exponent).value? = some (ofRat 0) ↔ significand = 0 := by
  have hpower : (2 : ℚ) ^ exponent ≠ 0 := zpow_ne_zero exponent two_ne_zero
  cases negative <;> simp [value?, rational?, hpower]

/-- Both zeros have one value, and no other number has it. -/
theorem same_zero_iff (x : Binary64) : x.same zero = true ↔ x.value? = some (ofRat 0) := by
  cases x with
  | undefined => simp [same]
  | infinite negative => cases negative <;> simp [same, zero, ExtendedRational.ofRat_ne_top.symm,
      ExtendedRational.ofRat_ne_bot.symm]
  | finite negative significand exponent =>
      rw [value?_finite_eq_zero_iff]
      cases significand <;> simp [same, zero]

theorem le_zero_iff (x : Binary64) :
    x.le zero = true ↔ ∃ v, x.value? = some v ∧ v ≤ ofRat 0 := by
  rw [le, Bool.or_eq_true, lt_iff, same_zero_iff]
  simp only [value?_zero, Option.some.injEq, exists_and_left, exists_eq_left', le_iff_lt_or_eq,
    and_or_left, exists_or, exists_eq_right]

end Binary64

namespace Amount

/-- The value of an amount on the line with its ends; a yes or no counts as one or zero. -/
def value? : Amount → Option ExtendedRational
  | .flag b => some (ofRat (ofFlag b))
  | .whole n => some (ofRat n)
  | .real x => x.value?

/-- Whether an amount is as great as a bound or greater. -/
def IsAtLeast (x : Amount) (bound : Int) : Prop := ∃ v, x.value? = some v ∧ ofRat bound ≤ v

/-- Whether an amount is greater than a bound. -/
def IsAbove (x : Amount) (bound : Int) : Prop := ∃ v, x.value? = some v ∧ ofRat bound < v

variable {x : Amount}

theorem value?_eq_none_iff : x.value? = none ↔ x = .real .undefined := by
  cases x with
  | flag b => simp [value?]
  | whole n => simp [value?]
  | real y => simp [value?, Binary64.value?_eq_none_iff]

theorem isBelowOne_iff : x.isBelowOne = true ↔ ∃ v, x.value? = some v ∧ v < ofRat 1 := by
  cases x with
  | flag b => cases b <;> simp [isBelowOne, value?, ofFlag]
  | whole n =>
      have hcast : n < 1 ↔ (n : ℚ) < 1 := by norm_cast
      simp [isBelowOne, value?, hcast]
  | real y => simp [isBelowOne, value?, Binary64.lt_iff, Binary64.value?_one]

theorem isNegative_iff : x.isNegative = true ↔ ∃ v, x.value? = some v ∧ v < ofRat 0 := by
  cases x with
  | flag b => cases b <;> simp [isNegative, value?, ofFlag]
  | whole n => simp [isNegative, value?]
  | real y => simp [isNegative, value?, Binary64.lt_iff, Binary64.value?_zero]

theorem isAtMostZero_iff : x.isAtMostZero = true ↔ ∃ v, x.value? = some v ∧ v ≤ ofRat 0 := by
  cases x with
  | flag b => cases b <;> simp [isAtMostZero, value?, ofFlag]
  | whole n => simp [isAtMostZero, value?]
  | real y => simp [isAtMostZero, value?, Binary64.le_zero_iff]

/-- An amount whose value does not meet a condition meets the opposite one, or it has no value. -/
theorem not_exists_value_iff {P Q : ExtendedRational → Prop} (hopposite : ∀ v, ¬ P v ↔ Q v) :
    (¬ ∃ v, x.value? = some v ∧ P v) ↔
      (∃ v, x.value? = some v ∧ Q v) ∨ x = .real .undefined := by
  rw [← value?_eq_none_iff]
  cases x.value? with
  | none => simp
  | some v => simpa using hopposite v

theorem isBelowOne_eq_false_iff :
    x.isBelowOne = false ↔ x.IsAtLeast 1 ∨ x = .real .undefined := by
  rw [← Bool.not_eq_true, isBelowOne_iff, IsAtLeast, Int.cast_one]
  exact not_exists_value_iff fun _ => not_lt

theorem isNegative_eq_false_iff :
    x.isNegative = false ↔ x.IsAtLeast 0 ∨ x = .real .undefined := by
  rw [← Bool.not_eq_true, isNegative_iff, IsAtLeast, Int.cast_zero]
  exact not_exists_value_iff fun _ => not_lt

theorem isAtMostZero_eq_false_iff :
    x.isAtMostZero = false ↔ x.IsAbove 0 ∨ x = .real .undefined := by
  rw [← Bool.not_eq_true, isAtMostZero_iff, IsAbove, Int.cast_zero]
  exact not_exists_value_iff fun _ => not_le

theorem IsAtLeast.ne_undefined {bound : Int} (hx : x.IsAtLeast bound) : x ≠ .real .undefined := by
  obtain ⟨v, hvalue, -⟩ := hx
  rw [ne_eq, ← value?_eq_none_iff, hvalue]
  exact Option.some_ne_none v

theorem IsAbove.ne_undefined {bound : Int} (hx : x.IsAbove bound) : x ≠ .real .undefined := by
  obtain ⟨v, hvalue, -⟩ := hx
  rw [ne_eq, ← value?_eq_none_iff, hvalue]
  exact Option.some_ne_none v

/-- Whether an amount is a time that comes: a positive number that is not infinite. -/
def IsDeadline (x : Amount) : Prop := ∃ q : ℚ, 0 < q ∧ x.value? = some (ofRat q)

theorem isDeadline_iff : x.IsDeadline ↔ x.IsAbove 0 ∧ x ≠ .real (.infinite false) := by
  constructor
  · rintro ⟨q, hpositive, hvalue⟩
    refine ⟨⟨ofRat q, hvalue, by simpa using hpositive⟩, ?_⟩
    rintro rfl
    exact ExtendedRational.ofRat_ne_top (Option.some.inj hvalue).symm
  · rintro ⟨⟨v, hvalue, habove⟩, hfinite⟩
    cases x with
    | flag b =>
        cases hvalue
        exact ⟨_, by simpa using habove, rfl⟩
    | whole n =>
        cases hvalue
        exact ⟨_, by simpa using habove, rfl⟩
    | real y =>
        cases y with
        | undefined => cases hvalue
        | infinite negative =>
            cases negative with
            | false => exact absurd rfl hfinite
            | true => simp [← Option.some.inj hvalue] at habove
        | finite negative significand exponent =>
            rw [value?, Binary64.value?_finite, Option.some_inj] at hvalue
            subst hvalue
            exact ⟨_, by simpa using habove, by rw [value?, Binary64.value?_finite]⟩

end Amount

end MutationTesting
