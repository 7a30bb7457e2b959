import MutationTesting.Proofs.Number.Rounding
import MutationTesting.Testing.Outcome

/-!
# When a score is full and when it is nothing

A score is a share of killed mutants that is rounded to hundredths of a percent.  Every step towards
it keeps the order of shares, so that a score is full from one share on and nothing below another.
Runs that are large enough have shares of both kinds besides the whole and nothing.
-/

namespace MutationTesting.Testing

open MutationTesting.Binary64

/-- The hundredths of a percent that a share is rounded to. -/
def hundredths (share : Binary64) : ℕ :=
  match share.mul (Binary64.ofNat 100) with
  | .finite _ significand exponent => inUnits significand exponent 2
  | _ => 0

section Shares

variable {share share' : Binary64} {v v' : ℚ}

theorem lt_finiteRange {x : ℚ} (hx : x ≤ 2 ^ 7) : x < finiteRange := by
  have hpower : (2 : ℚ) ^ (7 : ℤ) < finiteRange := zpow_lt_zpow_right₀ one_lt_two (by decide)
  exact hx.trans_lt (by exact_mod_cast hpower)

theorem denotes_hundred : Denotes (Binary64.ofNat 100) 100 := by
  refine ⟨100 * 2 ^ 46, -46, by decide, by decide, ?_⟩
  norm_num [zpow_neg]

theorem denotes_one : Denotes one 1 := by
  refine ⟨2 ^ 52, -52, by decide, by decide, ?_⟩
  norm_num [zpow_neg]

theorem denotes_zero : Denotes zero 0 := ⟨0, minExponent, rfl, by decide, by simp⟩

/-- A percentage is rounded to binary places first and then to hundredths. -/
theorem exists_isNearest_hundredths (hshare : Denotes share v) (hle : v ≤ 1) :
    ∃ u, Rounds (v * 100) u ∧ IsNearest (u * 100) (hundredths share) := by
  obtain ⟨u, hrounds, m, e, hm, -, rfl⟩ :=
    exists_denotes_mul hshare denotes_hundred (lt_finiteRange (by linarith))
  have hnearest : IsNearest (m * 2 ^ e * 10 ^ 2) (inUnits m e 2) := isNearest_inUnits m e 2
  refine ⟨_, hrounds, ?_⟩
  rw [hundredths, hm]
  norm_num at hnearest ⊢
  exact hnearest

/-- A greater share does not have fewer hundredths. -/
theorem hundredths_mono (hshare : Denotes share v) (hshare' : Denotes share' v') (hle : v ≤ v')
    (hone : v' ≤ 1) : hundredths share ≤ hundredths share' := by
  obtain ⟨u, hrounds, hnearest⟩ := exists_isNearest_hundredths hshare (hle.trans hone)
  obtain ⟨u', hrounds', hnearest'⟩ := exists_isNearest_hundredths hshare' hone
  have hnonneg : 0 ≤ v := hshare.nonneg
  have hu : u ≤ u' := hrounds.mono hrounds' (by linarith) (by linarith)
  exact hnearest.mono hnearest' (by linarith)

theorem hundredths_zero : hundredths zero = 0 := by
  have hsmall : Denotes (finite false 1 (-60)) ((1 : ℕ) * 2 ^ (-60 : ℤ)) :=
    ⟨1, -60, rfl, by decide, rfl⟩
  have hle : hundredths zero ≤ hundredths (finite false 1 (-60)) :=
    hundredths_mono denotes_zero hsmall (by positivity) (by norm_num [zpow_neg])
  have hnothing : hundredths (finite false 1 (-60)) = 0 := by decide
  omega

theorem hundredths_le (hshare : Denotes share v) (hone : v ≤ 1) : hundredths share ≤ 10000 := by
  calc
    hundredths share ≤ hundredths one := hundredths_mono hshare denotes_one hone (le_refl 1)
    _ = 10000 := by decide

/-- All ten thousand hundredths are reached from the share that is nearest to 19999 of 20000 on. -/
theorem hundredths_eq_full_iff (hshare : Denotes share v) (hone : v ≤ 1) :
    hundredths share = 10000 ↔ share.lt (quotient 19999 20000) = false := by
  have hbound : Denotes (quotient 19999 20000) ((0x1fff972474538e + 1 : ℕ) * 2 ^ (-53 : ℤ)) :=
    ⟨_, _, by decide, by decide, rfl⟩
  constructor
  · intro hfull
    by_contra hless
    rw [Bool.not_eq_false, hshare.lt_iff hbound] at hless
    have hbefore : v ≤ (0x1fff972474538e : ℕ) * 2 ^ (-53 : ℤ) := hshare.le_of_lt (by decide) hless
    have hle : hundredths share ≤ hundredths (finite false 0x1fff972474538e (-53)) := by
      apply hundredths_mono hshare ⟨_, _, rfl, by decide, rfl⟩ hbefore
      norm_num [zpow_neg]
    have hnearly : hundredths (finite false 0x1fff972474538e (-53)) = 9999 := by decide
    omega
  · intro hge
    rw [hshare.lt_eq_false_iff hbound] at hge
    have hle : hundredths (quotient 19999 20000) ≤ hundredths share :=
      hundredths_mono hbound hshare hge hone
    have hfull : hundredths (quotient 19999 20000) = 10000 := by decide
    have hmost := hundredths_le hshare hone
    omega

/-- No hundredth is reached below the share that is nearest to one of 20000. -/
theorem hundredths_eq_zero_iff (hshare : Denotes share v) (hone : v ≤ 1) :
    hundredths share = 0 ↔ share.lt (quotient 1 20000) = true := by
  have hbound : Denotes (quotient 1 20000) ((0x1a36e2eb1c432c + 1 : ℕ) * 2 ^ (-67 : ℤ)) :=
    ⟨_, _, by decide, by decide, rfl⟩
  constructor
  · intro hnothing
    by_contra hge
    rw [Bool.not_eq_true, hshare.lt_eq_false_iff hbound] at hge
    have hle : hundredths (quotient 1 20000) ≤ hundredths share :=
      hundredths_mono hbound hshare hge hone
    have hsome : hundredths (quotient 1 20000) = 1 := by decide
    omega
  · intro hless
    rw [hshare.lt_iff hbound] at hless
    have hbefore : v ≤ (0x1a36e2eb1c432c : ℕ) * 2 ^ (-67 : ℤ) := hshare.le_of_lt (by decide) hless
    have hle : hundredths share ≤ hundredths (finite false 0x1a36e2eb1c432c (-67)) := by
      apply hundredths_mono hshare ⟨_, _, rfl, by decide, rfl⟩ hbefore
      norm_num [zpow_neg]
    have hnothing : hundredths (finite false 0x1a36e2eb1c432c (-67)) = 0 := by decide
    omega

end Shares

section Scores

variable {killed total : ℕ}

/-- A number of hundredths as a percentage. -/
def ofHundredths (h : ℕ) : Binary64 := ofRatio false h 100

theorem ofHundredths_lt_eq_false {h k : ℕ} (hle : h ≤ k) (hfull : k ≤ 10000) :
    (ofHundredths k).lt (ofHundredths h) = false := by
  have hhk : (h : ℚ) ≤ k := by exact_mod_cast hle
  have hk : (k : ℚ) ≤ 10000 := by exact_mod_cast hfull
  apply ofRatio_lt_ofRatio_eq_false (by decide) (by decide)
  · exact div_le_div_of_nonneg_right hhk (Nat.cast_nonneg 100)
  · apply lt_finiteRange
    rw [div_le_iff₀ (by norm_num)]
    norm_num
    linarith

theorem ofHundredths_eq_hundred_iff {h : ℕ} (hfull : h ≤ 10000) :
    ofHundredths h = Binary64.ofNat 100 ↔ h = 10000 := by
  constructor
  · intro hsame
    by_contra hless
    have hnearly : (ofHundredths 9999).lt (ofHundredths h) = false :=
      ofHundredths_lt_eq_false (by omega) (by decide)
    rw [hsame] at hnearly
    exact absurd hnearly (by decide)
  · rintro rfl
    decide

theorem ofHundredths_eq_zero_iff {h : ℕ} (hfull : h ≤ 10000) :
    ofHundredths h = zero ↔ h = 0 := by
  constructor
  · intro hsame
    by_contra hsome
    have hfirst : (ofHundredths h).lt (ofHundredths 1) = false :=
      ofHundredths_lt_eq_false (by omega) hfull
    have hone : Denotes (ofHundredths 1) ((5764607523034235 : ℕ) * 2 ^ (-59 : ℤ)) :=
      ⟨_, _, by decide, by decide, rfl⟩
    rw [hsame, denotes_zero.lt_eq_false_iff hone] at hfirst
    exact absurd hfirst (by norm_num [zpow_neg])
  · rintro rfl
    decide

theorem quotient_natCast (n d : ℕ) : quotient n d = ofRatio false n d := by
  rw [quotient, decide_eq_false (by omega), Int.natAbs_natCast]

/-- A part of a whole is rounded to a share that is at most one. -/
theorem exists_denotes_quotient (htotal : 0 < total) (hpart : killed ≤ total) :
    ∃ v, Rounds (killed / total) v ∧ Denotes (quotient killed total) v ∧ v ≤ 1 := by
  have hpos : (0 : ℚ) < total := by exact_mod_cast htotal
  have hle : (killed : ℚ) / total ≤ 1 := by
    rw [div_le_one₀ hpos]
    exact_mod_cast hpart
  obtain ⟨v, hrounds, hv⟩ :=
    exists_denotes_ofRatio htotal (lt_finiteRange (hle.trans (by norm_num)))
  rw [← quotient_natCast] at hv
  refine ⟨v, hrounds, hv, ?_⟩
  rw [← denotes_one.lt_eq_false_iff hv, quotient_natCast, one, Binary64.ofNat]
  apply ofRatio_lt_ofRatio_eq_false htotal (by decide)
  · simpa using hle
  · exact lt_finiteRange (by norm_num)

theorem hundredths_quotient_le (htotal : 0 < total) (hpart : killed ≤ total) :
    hundredths (quotient killed total) ≤ 10000 := by
  obtain ⟨v, -, hv, hone⟩ := exists_denotes_quotient htotal hpart
  exact hundredths_le hv hone

/-- A part of at least the same size has at least as many hundredths. -/
theorem hundredths_quotient_mono {killed' total' : ℕ} (htotal : 0 < total) (htotal' : 0 < total')
    (hpart : killed ≤ total) (hpart' : killed' ≤ total')
    (hle : killed * total' ≤ killed' * total) :
    hundredths (quotient killed total) ≤ hundredths (quotient killed' total') := by
  obtain ⟨v, hrounds, hv, -⟩ := exists_denotes_quotient htotal hpart
  obtain ⟨v', hrounds', hv', hone⟩ := exists_denotes_quotient htotal' hpart'
  have hratio : (killed : ℚ) / total ≤ (killed' : ℚ) / total' := by
    have hpos : (0 : ℚ) < total := by exact_mod_cast htotal
    have hpos' : (0 : ℚ) < total' := by exact_mod_cast htotal'
    rw [div_le_div_iff₀ hpos hpos']
    exact_mod_cast hle
  have hvalues : v ≤ v' :=
    hrounds.mono hrounds' (div_nonneg (Nat.cast_nonneg killed) (Nat.cast_nonneg total)) hratio
  exact hundredths_mono hv hv' hvalues hone

/-- A score is a number of hundredths. -/
theorem scoreOf_eq (htotal : 0 < total) (hpart : killed ≤ total) :
    scoreOf killed total = ofHundredths (hundredths (quotient killed total)) := by
  obtain ⟨v, -, hv, hone⟩ := exists_denotes_quotient htotal hpart
  obtain ⟨u, -, m, e, hm, -, -⟩ :=
    exists_denotes_mul hv denotes_hundred (lt_finiteRange (by linarith))
  rw [scoreOf, if_neg htotal.ne', percentage, hundredths, hm]
  rfl

end Scores

theorem mutationScore_eq {results : List MutationResult} (hsome : results ≠ []) :
    mutationScore results =
      ofHundredths (hundredths (quotient (countOf .killed results) results.length)) :=
  scoreOf_eq (List.length_pos_iff.mpr hsome) List.countP_le_length

theorem exists_denotes_killed {results : List MutationResult} (hsome : results ≠ []) :
    ∃ v, Denotes (quotient (countOf .killed results) results.length) v ∧ v ≤ 1 := by
  obtain ⟨v, -, hv, hone⟩ :=
    exists_denotes_quotient (List.length_pos_iff.mpr hsome) List.countP_le_length
  exact ⟨v, hv, hone⟩

/-- The score is full from a certain share on. -/
theorem mutationScore_eq_hundred_iff (results : List MutationResult) :
    mutationScore results = Binary64.ofNat 100 ↔ results ≠ [] ∧
      (quotient (countOf .killed results) results.length).lt (quotient 19999 20000) = false := by
  by_cases hsome : results = []
  · subst hsome
    exact iff_of_false (by decide) (by simp)
  · obtain ⟨v, hv, hone⟩ := exists_denotes_killed hsome
    rw [mutationScore_eq hsome, ofHundredths_eq_hundred_iff (hundredths_le hv hone),
      hundredths_eq_full_iff hv hone, and_iff_right hsome]

theorem mutationScore_eq_zero_iff (results : List MutationResult) :
    mutationScore results = zero ↔ results = [] ∨
      (quotient (countOf .killed results) results.length).lt (quotient 1 20000) = true := by
  by_cases hsome : results = []
  · subst hsome
    exact iff_of_true (by decide) (Or.inl rfl)
  · obtain ⟨v, hv, hone⟩ := exists_denotes_killed hsome
    rw [mutationScore_eq hsome, ofHundredths_eq_zero_iff (hundredths_le hv hone),
      hundredths_eq_zero_iff hv hone, or_iff_right hsome]

theorem countOf_eq_length_iff {c : Classification} {results : List MutationResult} :
    countOf c results = results.length ↔ ∀ r ∈ results, r.classification = c := by
  rw [countOf, List.countP_eq_length]
  simp

theorem countOf_eq_zero_iff {c : Classification} {results : List MutationResult} :
    countOf c results = 0 ↔ ∀ r ∈ results, r.classification ≠ c := by
  rw [countOf, List.countP_eq_zero]
  simp

/-- In a run of fewer than twenty thousand mutants a survivor is seen in the score. -/
theorem mutationScore_eq_hundred_iff_of_small {results : List MutationResult}
    (hsmall : results.length < 20000) :
    mutationScore results = Binary64.ofNat 100 ↔
      results ≠ [] ∧ ∀ r ∈ results, r.classification = .killed := by
  by_cases hsome : results = []
  · subst hsome
    exact iff_of_false (by decide) (by simp)
  · have htotal : 0 < results.length := List.length_pos_iff.mpr hsome
    have hpart : countOf .killed results ≤ results.length := List.countP_le_length
    have hmost := hundredths_quotient_le htotal hpart
    rw [mutationScore_eq hsome, ofHundredths_eq_hundred_iff hmost, and_iff_right hsome,
      ← countOf_eq_length_iff]
    constructor
    · intro hfull
      by_contra hless
      have hle : hundredths (quotient (countOf .killed results) results.length) ≤
          hundredths (quotient (19998 : ℕ) 19999) :=
        hundredths_quotient_mono htotal (by decide) hpart (by decide) (by omega)
      have hnearly : hundredths (quotient (19998 : ℕ) 19999) = 9999 := by decide
      omega
    · intro hall
      have hle : hundredths (quotient (1 : ℕ) 1) ≤
          hundredths (quotient (countOf .killed results) results.length) :=
        hundredths_quotient_mono (by decide) htotal (by decide) hpart (by omega)
      have hfull : hundredths (quotient (1 : ℕ) 1) = 10000 := by decide
      omega

/-- In a run of at most twenty thousand mutants a killed one is seen in the score. -/
theorem mutationScore_eq_zero_iff_of_small {results : List MutationResult}
    (hsmall : results.length ≤ 20000) :
    mutationScore results = zero ↔ ∀ r ∈ results, r.classification ≠ .killed := by
  by_cases hsome : results = []
  · subst hsome
    exact iff_of_true (by decide) (by simp)
  · have htotal : 0 < results.length := List.length_pos_iff.mpr hsome
    have hpart : countOf .killed results ≤ results.length := List.countP_le_length
    have hmost := hundredths_quotient_le htotal hpart
    rw [mutationScore_eq hsome, ofHundredths_eq_zero_iff hmost, ← countOf_eq_zero_iff]
    constructor
    · intro hnothing
      by_contra hkilled
      have hle : hundredths (quotient (1 : ℕ) 20000) ≤
          hundredths (quotient (countOf .killed results) results.length) :=
        hundredths_quotient_mono (by decide) htotal (by decide) hpart (by omega)
      have hfirst : hundredths (quotient (1 : ℕ) 20000) = 1 := by decide
      omega
    · intro hnone
      have hzero : quotient (countOf .killed results) results.length = zero := by
        rw [hnone, quotient_natCast]
        rfl
      rw [hzero, hundredths_zero]

/-- More killed mutants among as many do not have a lower score. -/
theorem mutationScore_lt_eq_false {results results' : List MutationResult}
    (hlength : results.length = results'.length)
    (hkilled : countOf .killed results ≤ countOf .killed results') :
    (mutationScore results').lt (mutationScore results) = false := by
  by_cases hsome : results = []
  · subst hsome
    obtain rfl : results' = [] := List.eq_nil_of_length_eq_zero hlength.symm
    exact (denotes_zero.lt_eq_false_iff denotes_zero).mpr (le_refl 0)
  · have hsome' : results' ≠ [] := by
      rintro rfl
      exact hsome (List.eq_nil_of_length_eq_zero hlength)
    have htotal : 0 < results.length := List.length_pos_iff.mpr hsome
    have htotal' : 0 < results'.length := List.length_pos_iff.mpr hsome'
    have hpart : countOf .killed results ≤ results.length := List.countP_le_length
    have hpart' : countOf .killed results' ≤ results'.length := List.countP_le_length
    rw [mutationScore_eq hsome, mutationScore_eq hsome']
    apply ofHundredths_lt_eq_false _ (hundredths_quotient_le htotal' hpart')
    apply hundredths_quotient_mono htotal htotal' hpart hpart'
    rw [hlength]
    exact Nat.mul_le_mul_right _ hkilled

/-- A score is full exactly from the share that is nearest to 19999 of 20000 on, and nothing exactly
below the one nearest to one of 20000.  Smaller runs have a full score only if every mutant is killed
and none only if no mutant is.  A result that turns into a killed one never lowers the score. -/
theorem scores_follow_shares (results : List MutationResult) :
    (mutationScore results = Binary64.ofNat 100 ↔ results ≠ [] ∧
      (quotient (countOf .killed results) results.length).lt (quotient 19999 20000) = false) ∧
    (mutationScore results = zero ↔ results = [] ∨
      (quotient (countOf .killed results) results.length).lt (quotient 1 20000) = true) ∧
    (results.length < 20000 → (mutationScore results = Binary64.ofNat 100 ↔
      results ≠ [] ∧ ∀ r ∈ results, r.classification = .killed)) ∧
    (results.length ≤ 20000 → (mutationScore results = zero ↔
      ∀ r ∈ results, r.classification ≠ .killed)) ∧
    ∀ front r r' back, results = front ++ r :: back → r'.classification = .killed →
      (mutationScore (front ++ r' :: back)).lt (mutationScore results) = false := by
  refine ⟨mutationScore_eq_hundred_iff results, mutationScore_eq_zero_iff results,
    mutationScore_eq_hundred_iff_of_small, mutationScore_eq_zero_iff_of_small, ?_⟩
  rintro front r r' back rfl hkilled
  apply mutationScore_lt_eq_false
  · rw [List.length_append, List.length_append, List.length_cons, List.length_cons]
  · have hcount : countOf .killed (r :: back) ≤ countOf .killed (r' :: back) := by
      rw [countOf, countOf, List.countP_cons, List.countP_cons_of_pos (by simpa using hkilled)]
      split <;> omega
    simp only [countOf, List.countP_append] at hcount ⊢
    omega

/-- As many results of each kind as given. -/
def resultsOf (killed survived : ℕ) : List MutationResult :=
  List.replicate killed ⟨default, .killed, none⟩ ++
    List.replicate survived ⟨default, .survived, none⟩

theorem mutationScore_resultsOf (killed survived : ℕ) :
    mutationScore (resultsOf killed survived) = scoreOf killed (killed + survived) := by
  simp [mutationScore, resultsOf, countOf, List.countP_replicate]

/-- One survivor among twenty thousand mutants is not seen in the score, nor is one killed mutant
among one more than these. -/
theorem survivor_behind_full_score :
    (∀ r ∈ resultsOf 19999 1 ++ resultsOf 1 20000, r.classification ∈ Classification.all) ∧
    mutationScore (resultsOf 19999 1) = Binary64.ofNat 100 ∧
    (∃ r ∈ resultsOf 19999 1, r.classification = .survived) ∧
    mutationScore (resultsOf 1 20000) = zero ∧
    ∃ r ∈ resultsOf 1 20000, r.classification = .killed := by
  refine ⟨?_, ?_, ?_, ?_, ?_⟩
  · intro r hr
    simp only [resultsOf, List.mem_append, List.mem_replicate] at hr
    rcases hr with (⟨-, rfl⟩ | ⟨-, rfl⟩) | ⟨-, rfl⟩ | ⟨-, rfl⟩ <;> decide
  · rw [mutationScore_resultsOf]
    decide
  · exact ⟨_, List.mem_append_right _ (List.mem_replicate.mpr ⟨by decide, rfl⟩), rfl⟩
  · rw [mutationScore_resultsOf]
    decide
  · exact ⟨_, List.mem_append_left _ (List.mem_replicate.mpr ⟨by decide, rfl⟩), rfl⟩

end MutationTesting.Testing
