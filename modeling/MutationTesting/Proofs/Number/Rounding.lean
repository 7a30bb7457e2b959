import Mathlib.Algebra.Order.Field.Power
import Mathlib.Algebra.Ring.Parity
import Mathlib.Data.Int.Log
import Mathlib.Data.Rat.Floor
import Mathlib.Tactic.FieldSimp
import Mathlib.Tactic.Linarith
import Mathlib.Tactic.Positivity
import Mathlib.Tactic.Ring
import MutationTesting.Number.Decimal
import MutationTesting.Proofs.Number.Comparison

/-!
# Rounding keeps the order

A ratio is rounded to a whole multiple of its unit in the last place, the nearest one, and to the
even one of two that are equally near.  The unit only grows with the ratio, and a power of two is a
multiple of every unit below it, so that a greater ratio is never rounded to a smaller number.
-/

namespace MutationTesting.Binary64

/-- Whether a whole number is the nearest one, the even one if two of them are. -/
structure IsNearest (x : ℚ) (k : ℕ) : Prop where
  lower : (k : ℚ) - 1 / 2 ≤ x
  upper : x ≤ k + 1 / 2
  tie : x = k - 1 / 2 ∨ x = k + 1 / 2 → Even k

theorem IsNearest.mono {x y : ℚ} {k l : ℕ} (hx : IsNearest x k) (hy : IsNearest y l)
    (hle : x ≤ y) : k ≤ l := by
  by_contra hgreater
  have hsucc : (l : ℚ) + 1 ≤ k := by exact_mod_cast Nat.lt_of_not_le hgreater
  -- the two whole numbers differ by one, and both ratios lie half-way between them
  have hlower := hx.lower
  have hupper := hy.upper
  have hk : Even k := hx.tie (Or.inl (by linarith))
  have hl : Even l := hy.tie (Or.inr (by linarith))
  have hnext : k = l + 1 := by exact_mod_cast (by linarith : (k : ℚ) = l + 1)
  rw [hnext, Nat.even_add_one] at hk
  exact hk hl

theorem isNearest_of_lt_half {q : ℕ} {r : ℚ} (hr : 0 ≤ r) (hhalf : r < 1 / 2) :
    IsNearest (q + r) q := by
  constructor
  · linarith
  · linarith
  · intro htie
    cases htie with
    | inl hbelow => linarith
    | inr habove => linarith

theorem isNearest_of_half_lt {q : ℕ} {r : ℚ} (hhalf : 1 / 2 < r) (hr : r < 1) :
    IsNearest (q + r) (q + 1 : ℕ) := by
  constructor <;> push_cast
  · linarith
  · linarith
  · intro htie
    cases htie with
    | inl hbelow => linarith
    | inr habove => linarith

theorem isNearest_half (q : ℕ) : IsNearest (q + 1 / 2) (q + q % 2 : ℕ) := by
  cases Nat.mod_two_eq_zero_or_one q with
  | inl heven =>
      rw [heven, Nat.add_zero]
      exact ⟨by linarith, le_refl _, fun _ => Nat.even_iff.mpr heven⟩
  | inr hodd =>
      rw [hodd]
      refine ⟨?_, ?_, fun _ => Nat.even_iff.mpr (by omega)⟩
      · push_cast
        linarith
      · push_cast
        linarith

theorem isNearest_natCast (k : ℕ) : IsNearest k k := by
  have hk : IsNearest (k + 0) k := isNearest_of_lt_half (le_refl 0) (by norm_num)
  rwa [add_zero] at hk

/-- The whole number of a division, its remainder taken into account, is the nearest one. -/
theorem isNearest_roundHalfEven (n : ℕ) {d : ℕ} (hd : 0 < d) :
    IsNearest (n / d) (roundHalfEven n d) := by
  have hpos : (0 : ℚ) < d := by exact_mod_cast hd
  let r : ℚ := (n % d : ℕ) / d
  have hratio : (n : ℚ) / d = (n / d : ℕ) + r := by
    have hn : (n : ℚ) = d * (n / d : ℕ) + (n % d : ℕ) := by
      exact_mod_cast (Nat.div_add_mod n d).symm
    rw [hn, add_div, mul_div_cancel_left₀ _ hpos.ne']
  have htwice : r * (2 * d) = (2 * (n % d) : ℕ) := by
    rw [Nat.cast_mul, Nat.cast_two, mul_left_comm, div_mul_cancel₀ _ hpos.ne']
  have hone : r < 1 := by
    rw [div_lt_one₀ hpos]
    exact_mod_cast Nat.mod_lt n hd
  have hdouble : (0 : ℚ) < 2 * d := by positivity
  rw [hratio, roundHalfEven]
  split
  next hless =>
      apply isNearest_of_lt_half (by positivity)
      have hhalf : ((2 * (n % d) : ℕ) : ℚ) < d := by exact_mod_cast hless
      nlinarith
  next hnotless =>
      split
      next hmore =>
          apply isNearest_of_half_lt _ hone
          have hhalf : (d : ℚ) < (2 * (n % d) : ℕ) := by exact_mod_cast hmore
          nlinarith
      next hnotmore =>
          have hhalf : r = 1 / 2 := by
            rw [Nat.le_antisymm (Nat.not_lt.mp hnotmore) (Nat.not_lt.mp hnotless)] at htwice
            rw [eq_div_iff two_ne_zero]
            apply mul_right_cancel₀ hpos.ne'
            linarith
          rw [hhalf]
          exact isNearest_half (n / d)

theorem scaleByPower_pos (n : ℕ) {d : ℕ} (hd : 0 < d) (e : ℤ) : 0 < (scaleByPower n d e).2 := by
  rw [scaleByPower]
  split
  · exact hd
  · exact Nat.mul_pos hd (Nat.pow_pos (by decide))

theorem scaleByPower_eq (n d : ℕ) (e : ℤ) :
    ((scaleByPower n d e).1 : ℚ) / (scaleByPower n d e).2 = n / d / 2 ^ e := by
  rw [scaleByPower]
  split
  next hnegative =>
      obtain ⟨k, rfl⟩ : ∃ k : ℕ, e = -(k : ℤ) := ⟨(-e).toNat, by omega⟩
      simp [mul_div_right_comm]
  next hnonneg =>
      obtain ⟨k, rfl⟩ : ∃ k : ℕ, e = k := ⟨e.toNat, by omega⟩
      simp [div_div]

theorem log_eq_of_le_of_lt {x : ℚ} {k : ℤ} (hlower : (2 : ℚ) ^ k ≤ x)
    (hupper : x < (2 : ℚ) ^ (k + 1)) : Int.log 2 x = k := by
  have hx : 0 < x := lt_of_lt_of_le (by positivity) hlower
  apply le_antisymm
  · rw [← Int.lt_add_one_iff, ← Int.lt_zpow_iff_log_lt (by decide) hx]
    exact_mod_cast hupper
  · rw [← Int.zpow_le_iff_le_log (by decide) hx]
    exact_mod_cast hlower

/-- The logarithm of a ratio is the difference of those of its parts or one less than that. -/
theorem floorLog2_eq {n d : ℕ} (hn : 0 < n) (hd : 0 < d) :
    floorLog2 n d = Int.log 2 ((n : ℚ) / d) := by
  have hpos : (0 : ℚ) < d := by exact_mod_cast hd
  let estimate : ℤ := (Nat.log2 n : ℤ) - (Nat.log2 d : ℤ)
  have hupper : (n : ℚ) / d < 2 ^ (estimate + 1) := by
    have hnum : (n : ℚ) < 2 ^ (Nat.log2 n + 1) := by exact_mod_cast Nat.lt_log2_self
    have hden : (2 : ℚ) ^ Nat.log2 d ≤ d := by exact_mod_cast Nat.log2_self_le hd.ne'
    have hpower : (2 : ℚ) ^ (estimate + 1) * 2 ^ Nat.log2 d = 2 ^ (Nat.log2 n + 1) := by
      rw [← zpow_natCast, ← zpow_add₀ two_ne_zero, ← zpow_natCast]
      congr 1
      push_cast
      ring
    rw [div_lt_iff₀ hpos]
    calc
      (n : ℚ) < 2 ^ (estimate + 1) * 2 ^ Nat.log2 d := by rwa [hpower]
      _ ≤ 2 ^ (estimate + 1) * d := mul_le_mul_of_nonneg_left hden (by positivity)
  have hlower : (2 : ℚ) ^ (estimate - 1) ≤ n / d := by
    have hnum : (2 : ℚ) ^ Nat.log2 n ≤ n := by exact_mod_cast Nat.log2_self_le hn.ne'
    have hden : (d : ℚ) ≤ 2 ^ (Nat.log2 d + 1) := by exact_mod_cast Nat.lt_log2_self.le
    have hpower : (2 : ℚ) ^ (estimate - 1) * 2 ^ (Nat.log2 d + 1) = 2 ^ Nat.log2 n := by
      rw [← zpow_natCast, ← zpow_add₀ two_ne_zero, ← zpow_natCast]
      congr 1
      push_cast
      ring
    rw [le_div_iff₀ hpos]
    calc
      (2 : ℚ) ^ (estimate - 1) * d ≤ 2 ^ (estimate - 1) * 2 ^ (Nat.log2 d + 1) :=
        mul_le_mul_of_nonneg_left hden (by positivity)
      _ ≤ n := by rwa [hpower]
  have hscaled : (scaleByPower n d estimate).2 ≤ (scaleByPower n d estimate).1 ↔
      (2 : ℚ) ^ estimate ≤ n / d := by
    have hunit : (0 : ℚ) < (scaleByPower n d estimate).2 := by
      exact_mod_cast scaleByPower_pos n hd estimate
    rw [← one_le_div₀ (by positivity : (0 : ℚ) < 2 ^ estimate), ← scaleByPower_eq,
      one_le_div₀ hunit]
    norm_cast
  by_cases hle : (2 : ℚ) ^ estimate ≤ n / d
  · calc
      floorLog2 n d = estimate := if_pos (hscaled.mpr hle)
      _ = Int.log 2 ((n : ℚ) / d) := (log_eq_of_le_of_lt hle hupper).symm
  · have hless : (n : ℚ) / d < 2 ^ (estimate - 1 + 1) := by
      rw [sub_add_cancel]
      exact not_le.mp hle
    calc
      floorLog2 n d = estimate - 1 := if_neg fun hunit => hle (hscaled.mp hunit)
      _ = Int.log 2 ((n : ℚ) / d) := (log_eq_of_le_of_lt hlower hless).symm

/-- The exponent of a ratio's last place: the ratio has 53 places in base two, or fewer where these
would begin below the least exponent. -/
def lastPlace (x : ℚ) : ℤ := max (Int.log 2 x - 52) minExponent

/-- Whether a value is a ratio rounded to its last place. -/
def Rounds (x v : ℚ) : Prop :=
  ∃ m : ℕ, IsNearest (x / 2 ^ lastPlace x) m ∧ v = m * 2 ^ lastPlace x

/-- Whether a number is finite and has a value that is not negative. -/
def Denotes (number : Binary64) (v : ℚ) : Prop :=
  ∃ (m : ℕ) (e : ℤ), number = finite false m e ∧ m < 2 ^ 53 ∧ v = m * 2 ^ e

section Order

variable {x y v w : ℚ}

theorem lastPlace_mono (hx : 0 < x) (hle : x ≤ y) : lastPlace x ≤ lastPlace y := by
  have hlog : Int.log 2 x ≤ Int.log 2 y := Int.log_mono_right hx hle
  rw [lastPlace, lastPlace]
  omega

/-- No ratio has more than 53 places. -/
theorem lt_lastPlace (x : ℚ) : x < 2 ^ 53 * 2 ^ lastPlace x := by
  have hlog : x < (2 : ℚ) ^ (Int.log 2 x + 1) := by
    exact_mod_cast Int.lt_zpow_succ_log_self (by decide : 1 < 2) x
  have hplace : Int.log 2 x + 1 ≤ 53 + lastPlace x := by
    rw [lastPlace]
    omega
  calc
    x < 2 ^ (Int.log 2 x + 1) := hlog
    _ ≤ 2 ^ (53 + lastPlace x) := zpow_le_zpow_right₀ one_le_two hplace
    _ = 2 ^ 53 * 2 ^ lastPlace x := by
      rw [zpow_add₀ two_ne_zero]
      norm_cast

/-- Above the least exponent a ratio has all of the 53 places. -/
theorem lastPlace_le (hx : 0 < x) (hplace : minExponent < lastPlace x) :
    2 ^ 52 * 2 ^ lastPlace x ≤ x := by
  have hlog : (2 : ℚ) ^ Int.log 2 x ≤ x := by
    exact_mod_cast Int.zpow_log_le_self (by decide : 1 < 2) hx
  have hsame : Int.log 2 x = 52 + lastPlace x := by
    rw [lastPlace] at hplace ⊢
    omega
  calc
    (2 : ℚ) ^ 52 * 2 ^ lastPlace x = 2 ^ (52 + lastPlace x) := by
      rw [zpow_add₀ two_ne_zero]
      norm_cast
    _ ≤ x := by rwa [← hsame]

theorem IsNearest.le_of_le {m k : ℕ} (hm : IsNearest x m) (hle : x ≤ k) : m ≤ k :=
  hm.mono (isNearest_natCast k) hle

theorem IsNearest.ge_of_ge {m k : ℕ} (hm : IsNearest x m) (hle : (k : ℚ) ≤ x) : k ≤ m :=
  (isNearest_natCast k).mono hm hle

theorem Rounds.nonneg (hv : Rounds x v) : 0 ≤ v := by
  obtain ⟨m, -, rfl⟩ := hv
  positivity

/-- A significand that is rounded up to a new place is a power of two. -/
theorem significand_le {m : ℕ} (hm : IsNearest (x / 2 ^ lastPlace x) m) : m ≤ 2 ^ 53 := by
  apply hm.le_of_le
  rw [div_le_iff₀ (by positivity)]
  exact_mod_cast (lt_lastPlace x).le

/-- A greater ratio is not rounded to a smaller number. -/
theorem Rounds.mono (hv : Rounds x v) (hw : Rounds y w) (hx : 0 ≤ x) (hle : x ≤ y) : v ≤ w := by
  have hnonneg : 0 ≤ w := hw.nonneg
  obtain ⟨m, hm, rfl⟩ := hv
  obtain ⟨k, hk, rfl⟩ := hw
  cases hx.eq_or_lt with
  | inl hzero =>
      have hnone : m ≤ 0 := hm.le_of_le (by simp [← hzero])
      rw [Nat.le_zero.mp hnone, Nat.cast_zero, zero_mul]
      exact hnonneg
  | inr hpos =>
      cases (lastPlace_mono hpos hle).eq_or_lt with
      | inl hsame =>
          rw [← hsame] at hk ⊢
          have hmk : m ≤ k := hm.mono hk (div_le_div_of_nonneg_right hle (by positivity))
          have hcast : (m : ℚ) ≤ k := by exact_mod_cast hmk
          exact mul_le_mul_of_nonneg_right hcast (by positivity)
      | inr hless =>
          -- the power of two between the ratios is a multiple of either unit
          have hlow : minExponent < lastPlace y := lt_of_le_of_lt (le_max_right _ _) hless
          have hk52 : 2 ^ 52 ≤ k := by
            apply hk.ge_of_ge
            rw [le_div_iff₀ (by positivity)]
            exact_mod_cast lastPlace_le (hpos.trans_le hle) hlow
          have hm53 : (m : ℚ) ≤ 2 ^ 53 := by exact_mod_cast significand_le hm
          have hcast : (2 : ℚ) ^ 52 ≤ k := by exact_mod_cast hk52
          have hunits : (2 : ℚ) * 2 ^ lastPlace x ≤ 2 ^ lastPlace y := by
            rw [← zpow_one_add₀ two_ne_zero]
            exact zpow_le_zpow_right₀ one_le_two (by omega)
          calc
            (m : ℚ) * 2 ^ lastPlace x ≤ 2 ^ 53 * 2 ^ lastPlace x :=
              mul_le_mul_of_nonneg_right hm53 (by positivity)
            _ = 2 ^ 52 * (2 * 2 ^ lastPlace x) := by ring
            _ ≤ 2 ^ 52 * 2 ^ lastPlace y := mul_le_mul_of_nonneg_left hunits (by positivity)
            _ ≤ k * 2 ^ lastPlace y := mul_le_mul_of_nonneg_right hcast (by positivity)

end Order

/-- Every ratio below this is rounded to a finite number. -/
def finiteRange : ℚ := 2 ^ (1023 : ℤ)

theorem lastPlace_lt {x : ℚ} (hx : x < finiteRange) : lastPlace x < maxExponent := by
  rw [lastPlace, max_lt_iff]
  constructor
  · cases le_or_gt x 0 with
    | inl hle =>
        rw [Int.log_of_right_le_zero 2 hle]
        decide
    | inr hpos =>
        have hlog : Int.log 2 x < 1023 := by
          rwa [← Int.lt_zpow_iff_log_lt (by decide) hpos, Nat.cast_ofNat]
        rw [maxExponent]
        omega
  · decide

/-- A ratio within the range of the finite numbers is rounded to one of them. -/
theorem exists_denotes_ofRatio {n d : ℕ} (hd : 0 < d) (hrange : (n : ℚ) / d < finiteRange) :
    ∃ v, Rounds (n / d) v ∧ Denotes (ofRatio false n d) v := by
  rw [ofRatio]
  split
  next hzero =>
      obtain rfl : n = 0 := hzero.resolve_right hd.ne'
      refine ⟨0, ⟨0, ?_, by simp⟩, 0, minExponent, rfl, by decide, by simp⟩
      simpa using isNearest_natCast 0
  next hnonzero =>
      rw [not_or] at hnonzero
      have hplace : max (floorLog2 n d - 52) minExponent = lastPlace ((n : ℚ) / d) := by
        rw [floorLog2_eq (Nat.pos_of_ne_zero hnonzero.1) hd, lastPlace]
      have hmax : lastPlace ((n : ℚ) / d) < maxExponent := lastPlace_lt hrange
      dsimp only
      rw [hplace]
      generalize he : lastPlace ((n : ℚ) / d) = e at hmax
      have hnearest := isNearest_roundHalfEven (scaleByPower n d e).1 (scaleByPower_pos n hd e)
      rw [scaleByPower_eq] at hnearest
      refine ⟨_, ⟨_, by rwa [he], rfl⟩, ?_⟩
      rw [he]
      split
      next hfull =>
          rw [if_neg (not_le.mpr hmax), hfull]
          refine ⟨2 ^ 52, e + 1, rfl, by decide, ?_⟩
          rw [zpow_add_one₀ two_ne_zero]
          push_cast
          ring
      next hfits =>
          rw [if_neg (not_lt.mpr hmax.le)]
          have hle := significand_le (by rwa [he] : IsNearest (n / d / 2 ^ lastPlace (n / d)) _)
          exact ⟨_, e, rfl, lt_of_le_of_ne hle hfits, rfl⟩

section Denotes

variable {x y : Binary64} {v w : ℚ}

theorem Denotes.nonneg (hv : Denotes x v) : 0 ≤ v := by
  obtain ⟨m, e, -, -, rfl⟩ := hv
  positivity

theorem Denotes.value? (hv : Denotes x v) : x.value? = some (ExtendedRational.ofRat v) := by
  obtain ⟨m, e, rfl, -, rfl⟩ := hv
  rw [value?_finite, signedInt, if_neg Bool.false_ne_true, Int.cast_natCast, magnitude_eq]

theorem Denotes.lt_iff (hv : Denotes x v) (hw : Denotes y w) : x.lt y = true ↔ v < w := by
  rw [Binary64.lt_iff, hv.value?, hw.value?]
  simp

theorem Denotes.lt_eq_false_iff (hv : Denotes x v) (hw : Denotes y w) :
    x.lt y = false ↔ w ≤ v := by
  rw [← Bool.not_eq_true, hv.lt_iff hw, not_lt]

/-- A value less than one with all places is at most the one before that. -/
theorem Denotes.le_of_lt {k : ℕ} {e : ℤ} (hv : Denotes x v) (hfull : 2 ^ 52 ≤ k)
    (hless : v < (k + 1 : ℕ) * 2 ^ e) : v ≤ k * 2 ^ e := by
  obtain ⟨m, f, -, hm, rfl⟩ := hv
  cases le_or_gt e f with
  | inl hcoarse =>
      -- the value is a multiple of the same unit
      obtain ⟨n, rfl⟩ : ∃ n : ℕ, f = n + e := ⟨(f - e).toNat, by omega⟩
      have hvalue : (m : ℚ) * 2 ^ ((n : ℤ) + e) = (m * 2 ^ n : ℕ) * 2 ^ e := by
        rw [zpow_add₀ two_ne_zero, zpow_natCast]
        push_cast
        ring
      rw [hvalue] at hless ⊢
      have hcount : ((m * 2 ^ n : ℕ) : ℚ) < (k + 1 : ℕ) :=
        lt_of_mul_lt_mul_right hless (by positivity)
      have hle : m * 2 ^ n ≤ k := Nat.lt_succ_iff.mp (by exact_mod_cast hcount)
      exact mul_le_mul_of_nonneg_right (by exact_mod_cast hle) (by positivity)
  | inr hfine =>
      have hhalf : (2 : ℚ) ^ f * 2 ≤ 2 ^ e := by
        rw [← zpow_add_one₀ two_ne_zero]
        exact zpow_le_zpow_right₀ one_le_two (by omega)
      have hm53 : (m : ℚ) ≤ 2 ^ 52 * 2 := by exact_mod_cast hm.le
      have hk52 : (2 : ℚ) ^ 52 ≤ k := by exact_mod_cast hfull
      calc
        (m : ℚ) * 2 ^ f ≤ 2 ^ 52 * 2 * 2 ^ f := mul_le_mul_of_nonneg_right hm53 (by positivity)
        _ = 2 ^ 52 * (2 ^ f * 2) := by ring
        _ ≤ 2 ^ 52 * 2 ^ e := mul_le_mul_of_nonneg_left hhalf (by positivity)
        _ ≤ k * 2 ^ e := mul_le_mul_of_nonneg_right hk52 (by positivity)

/-- A product within the range of the finite numbers is rounded once. -/
theorem exists_denotes_mul (hv : Denotes x v) (hw : Denotes y w) (hrange : v * w < finiteRange) :
    ∃ u, Rounds (v * w) u ∧ Denotes (x.mul y) u := by
  obtain ⟨m, e, rfl, -, rfl⟩ := hv
  obtain ⟨n, f, rfl, -, rfl⟩ := hw
  have hproduct : ((magnitude m e).1 * (magnitude n f).1 : ℕ) /
      ((magnitude m e).2 * (magnitude n f).2 : ℕ) = (m * 2 ^ e * (n * 2 ^ f) : ℚ) := by
    rw [← magnitude_eq m e, ← magnitude_eq n f, div_mul_div_comm]
    push_cast
    rfl
  rw [← hproduct] at hrange ⊢
  exact exists_denotes_ofRatio (Nat.mul_pos (magnitude_pos m e) (magnitude_pos n f)) hrange

/-- A number in units of a decimal place is the nearest whole number of them. -/
theorem isNearest_inUnits (m : ℕ) (e : ℤ) (places : ℕ) :
    IsNearest (m * 2 ^ e * 10 ^ places) (inUnits m e places) := by
  have hratio : (m : ℚ) * 2 ^ e * 10 ^ places =
      ((magnitude m e).1 * 10 ^ places : ℕ) / (magnitude m e).2 := by
    rw [← magnitude_eq m e, div_mul_eq_mul_div]
    push_cast
    rfl
  rw [hratio]
  exact isNearest_roundHalfEven _ (magnitude_pos m e)

theorem ofRatio_lt_ofRatio_eq_false {n d n' d' : ℕ} (hd : 0 < d) (hd' : 0 < d')
    (hle : (n : ℚ) / d ≤ (n' : ℚ) / d') (hrange : (n' : ℚ) / d' < finiteRange) :
    (ofRatio false n' d').lt (ofRatio false n d) = false := by
  obtain ⟨u, hrounds, hu⟩ := exists_denotes_ofRatio hd (hle.trans_lt hrange)
  obtain ⟨u', hrounds', hu'⟩ := exists_denotes_ofRatio hd' hrange
  rw [hu'.lt_eq_false_iff hu]
  exact hrounds.mono hrounds' (div_nonneg (Nat.cast_nonneg n) (Nat.cast_nonneg d)) hle

end Denotes

end MutationTesting.Binary64
